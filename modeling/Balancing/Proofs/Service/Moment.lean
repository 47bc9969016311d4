import Balancing.Proofs.Service.Frame
import Balancing.Proofs.Service.Roster

namespace Balancing

structure Moment where
  service : Service
  clock : Instant
  -- what the last update that succeeded asked for
  specs : List ServerSpec := []

inductive Action where
  | acquire (excluded : List Nat)
  | release (profile : String) (entry : Entry) (isError : Bool) (micros : UInt64) (adaptive : Bool)
  | update (profiles : Profiles) (specs : List ServerSpec)
  | enable (enabled : Bool)
  | pass (nanoseconds : Nat)

namespace Moment

def create (name : String) (datacenter : Option String) (allowRemote : Bool) (windows : Windows)
    (clock : Instant) : Moment :=
  { service := .create name datacenter allowRemote windows, clock }

-- An update that fails changes nothing.
def after (m : Moment) : Action → Moment
  | .acquire excluded => { m with service := (m.service.acquire m.clock excluded).2 }
  | .release profile entry isError micros adaptive =>
    { m with service := (m.service.release m.clock profile entry isError micros adaptive).1 }
  | .update profiles specs =>
    match m.service.update m.clock profiles specs with
    | .ok service => { m with service, specs }
    | .error _ => m
  | .enable enabled => { m with service := { m.service with enabled } }
  | .pass nanoseconds =>
    { m with service := m.service.wake (m.clock + nanoseconds), clock := m.clock + nanoseconds }

def run (m : Moment) (actions : List Action) : Moment := actions.foldl after m

end Moment

namespace Service

-- All servers there ever were.
def everyone (s : Service) : List Server := s.servers ++ s.retired

def ids (s : Service) : List Nat := s.servers.map (·.id) ++ s.retired.map (·.id)

theorem map_id_everyone (s : Service) : s.everyone.map (·.id) = s.ids := List.map_append ..

structure Numbered (s : Service) : Prop where
  nodup : s.ids.Nodup
  lt : ∀ id ∈ s.ids, id < s.nextId

variable {s s' : Service}

theorem Numbered.congr (numbered : s.Numbered) (ids : s'.ids = s.ids)
    (next : s'.nextId = s.nextId) : s'.Numbered := by
  constructor
  · rw [ids]
    exact numbered.nodup
  · rw [ids, next]
    exact numbered.lt

theorem numbered_create (name : String) (datacenter : Option String) (allowRemote : Bool)
    (windows : Windows) : (create name datacenter allowRemote windows).Numbered :=
  ⟨.nil, by simp [ids, create]⟩

theorem retired_acquire (now : Instant) (excluded : List Nat) :
    let after := (s.acquire now excluded).2
    after.retired = s.retired ∧ after.nextId = s.nextId := by
  intro after
  rcases acquire_cases s now excluded with nothing | ⟨i, server, _, lent⟩
  · simp [after, nothing]
  · simp [after, lent, setServer, rescale]

theorem numbered_acquire (numbered : s.Numbered) (now : Instant) (excluded : List Nat) :
    (s.acquire now excluded).2.Numbered := by
  obtain ⟨retired, next⟩ := retired_acquire (s := s) now excluded
  refine numbered.congr ?_ next
  unfold ids
  rw [retired, map_acquire Server.fixed_id]

theorem retired_release (now : Instant) (profile : String) (entry : Entry) (isError : Bool)
    (micros : UInt64) (adaptive : Bool) :
    let after := (s.release now profile entry isError micros adaptive).1
    after.retired = s.retired ∧ after.nextId = s.nextId := by
  intro after
  cases found : s.serverOf? entry with
  | none => simp [after, release_of_none found]
  | some server =>
    cases adaptive with
    | true => simp [after, release_adaptive found, setServer]
    | false =>
      rcases release_static found now profile isError micros with stays | ⟨p, _, _, leaves⟩
      · simp [after, stays, setServer]
      · simp [after, leaves, suspend, setServer, rescale]

theorem numbered_release (numbered : s.Numbered) (now : Instant) (profile : String)
    (entry : Entry) (isError : Bool) (micros : UInt64) (adaptive : Bool) :
    (s.release now profile entry isError micros adaptive).1.Numbered := by
  obtain ⟨retired, next⟩ := retired_release (s := s) now profile entry isError micros adaptive
  refine numbered.congr ?_ next
  unfold ids
  rw [retired, map_release Server.fixed_id]

theorem nextId_wake (now : Instant) : (s.wake now).nextId = s.nextId := by
  rw [wake_eq]

theorem numbered_wake (numbered : s.Numbered) (now : Instant) : (s.wake now).Numbered := by
  refine numbered.congr ?_ (nextId_wake now)
  unfold ids
  rw [wake_eq]
  dsimp only
  rw [map_reactivate Server.fixed_id.activate, map_reactivate Server.fixed_id.activate]

-- What an update keeps and what it adds, in one list.
theorem update_ok {now : Instant} {profiles : Profiles} {specs : List ServerSpec}
    (updated : s.update now profiles specs = .ok s') :
    ∃ r slowStart, roster s.windows slowStart s.servers s.nextId specs = .ok r ∧
      s' = { s with profiles := withDefault profiles, servers := r.servers,
                    retired := s.retired ++ r.left, nextId := r.nextId } := by
  unfold update at updated
  obtain ⟨r, made, same⟩ := bind_ok_iff.mp updated
  cases same
  exact ⟨r, _, made, rfl⟩

-- A service without servers starts them all at their full weight.
theorem update_first (empty : s.servers = []) {now : Instant}
    {profiles : Profiles} {specs : List ServerSpec}
    (updated : s.update now profiles specs = .ok s') :
    ∃ r, roster s.windows none [] s.nextId specs = .ok r ∧
      s' = { s with profiles := withDefault profiles, servers := r.servers,
                    retired := s.retired ++ r.left, nextId := r.nextId } := by
  unfold update at updated
  obtain ⟨r, made, same⟩ := bind_ok_iff.mp updated
  cases same
  rw [empty] at made
  simp only [slowStart?, empty] at made
  exact ⟨r, made, rfl⟩

-- Nobody is lost by an update: all that there were, and new ones under the next numbers.
theorem everyone_update {now : Instant} {profiles : Profiles} {specs : List ServerSpec}
    (updated : s.update now profiles specs = .ok s') :
    ∃ fresh, s'.everyone.Perm (s.everyone ++ fresh) ∧
      fresh.map (·.id) = List.range' s.nextId fresh.length ∧
      s'.nextId = s.nextId + fresh.length ∧ ∀ server ∈ fresh, server.IsNew := by
  obtain ⟨r, slowStart, made, rfl⟩ := update_ok updated
  obtain ⟨fresh, perm, numbers, next, new⟩ := roster_perm made
  refine ⟨fresh, ?_, numbers, next, new⟩
  show (r.servers ++ (s.retired ++ r.left)).Perm (s.servers ++ s.retired ++ fresh)
  rw [List.append_assoc]
  calc (r.servers ++ (s.retired ++ r.left)).Perm (s.retired ++ (r.servers ++ r.left)) :=
        List.perm_append_comm_assoc ..
    List.Perm _ (s.retired ++ (s.servers ++ fresh)) := perm.append_left s.retired
    List.Perm _ (s.servers ++ (s.retired ++ fresh)) := List.perm_append_comm_assoc ..

theorem ids_update {now : Instant} {profiles : Profiles} {specs : List ServerSpec}
    (updated : s.update now profiles specs = .ok s') :
    ∃ count, s'.ids.Perm (s.ids ++ List.range' s.nextId count) ∧
      s'.nextId = s.nextId + count := by
  obtain ⟨fresh, perm, numbers, next, _⟩ := everyone_update updated
  refine ⟨fresh.length, ?_, next⟩
  have moved := perm.map (·.id)
  rw [List.map_append, numbers, map_id_everyone, map_id_everyone] at moved
  exact moved

theorem numbered_update (numbered : s.Numbered) {now : Instant} {profiles : Profiles}
    {specs : List ServerSpec} (updated : s.update now profiles specs = .ok s') : s'.Numbered := by
  obtain ⟨count, perm, next⟩ := ids_update updated
  constructor
  · rw [perm.nodup_iff, List.nodup_append]
    refine ⟨numbered.nodup, List.nodup_range' .., ?_⟩
    intro old member new fresh
    have := numbered.lt old member
    have := (List.mem_range'_1.mp fresh).1
    omega
  · intro id member
    rw [next]
    rcases List.mem_append.mp (perm.mem_iff.mp member) with old | fresh
    · have := numbered.lt id old
      omega
    · exact (List.mem_range'_1.mp fresh).2

end Service

namespace Moment

variable {m : Moment}

theorem numbered_after (numbered : m.service.Numbered) (action : Action) :
    (m.after action).service.Numbered := by
  cases action with
  | acquire excluded => exact Service.numbered_acquire numbered ..
  | release profile entry isError micros adaptive => exact Service.numbered_release numbered ..
  | update profiles specs =>
    unfold after
    dsimp only
    split
    · rename_i service updated
      exact Service.numbered_update numbered updated
    · exact numbered
  | enable enabled => exact numbered.congr rfl rfl
  | pass nanoseconds => exact Service.numbered_wake numbered _

theorem numbered_run (numbered : m.service.Numbered) (actions : List Action) :
    (m.run actions).service.Numbered := by
  induction actions generalizing m with
  | nil => exact numbered
  | cons action actions ih => exact ih (numbered_after numbered action)

-- The list has one server for each descriptor, in the order of the descriptors.
def Listed (m : Moment) : Prop :=
  List.Forall₂ (fun server spec => server.isOf spec = true) m.service.servers m.specs

theorem listed_create (name : String) (datacenter : Option String) (allowRemote : Bool)
    (windows : Windows) (clock : Instant) :
    (create name datacenter allowRemote windows clock).Listed := .nil

theorem Listed.congr (listed : m.Listed) {m' : Moment} (specs : m'.specs = m.specs)
    (same : m'.service.servers.map Server.isOf = m.service.servers.map Server.isOf) :
    m'.Listed := by
  unfold Listed
  rw [specs]
  exact Service.fit_congr same listed

theorem listed_after (listed : m.Listed) (action : Action) : (m.after action).Listed := by
  cases action with
  | acquire excluded => exact listed.congr rfl (Service.map_acquire Server.fixed_isOf ..)
  | release profile entry isError micros adaptive =>
    exact listed.congr rfl (Service.map_release Server.fixed_isOf ..)
  | update profiles specs =>
    unfold after
    dsimp only
    split
    · rename_i service updated
      obtain ⟨r, slowStart, made, rfl⟩ := Service.update_ok updated
      exact Service.roster_isOf made
    · exact listed
  | enable enabled => exact listed
  | pass nanoseconds => exact listed.congr rfl (Service.map_wake Server.fixed_isOf.activate ..)

theorem listed_run (listed : m.Listed) (actions : List Action) : (m.run actions).Listed := by
  induction actions generalizing m with
  | nil => exact listed
  | cons action actions ih => exact ih (listed_after listed action)

theorem addresses_of_listed (listed : m.Listed) :
    m.service.servers.map (·.address) = m.specs.map (·.address) := by
  have addresses : List.Forall₂ (fun (server : Server) (spec : ServerSpec) =>
      server.address = spec.address) m.service.servers m.specs := by
    refine listed.imp fun server spec fits => ?_
    simp only [Server.isOf, Bool.and_eq_true, decide_eq_true_eq] at fits
    exact fits.1.1.1
  rw [← List.forall₂_eq_eq_eq]
  exact List.forall₂_map_left_iff.mpr (List.forall₂_map_right_iff.mpr addresses)

end Moment

end Balancing
