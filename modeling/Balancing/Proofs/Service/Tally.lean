import Balancing.Proofs.Service.Rotation

namespace Balancing

-- What matters to the count of a server: a static error or success that reached it, or that it was
-- brought back.
inductive Mark where
  | error
  | success
  | back
  deriving DecidableEq

-- What a static release is to the server that it reaches.
def markOf (isError : Bool) : Mark := if isError then .error else .success

structure Tally where
  id : Nat
  fails : UInt32
  active : Bool

def Server.tally (s : Server) : Tally := ⟨s.id, s.fails, s.active⟩

namespace Tally

-- How a new server begins.
def new (id : Nat) : Tally := ⟨id, 0, true⟩

-- A limit of zero is never reached.
def reaches (limit : Option UInt32) (fails : UInt32) : Bool :=
  limit.any fun most => 0 < most && most ≤ fails

def next (t : Tally) (limit : Option UInt32) : Option Mark → Tally
  | none => t
  | some .error =>
    { t with fails := t.fails + 1, active := t.active && !reaches limit (t.fails + 1) }
  | some .success => { t with fails := 0 }
  | some .back => { t with fails := 0, active := true }

theorem id_next (t : Tally) (limit : Option UInt32) (mark : Option Mark) :
    (t.next limit mark).id = t.id := by
  rcases mark with _ | _ | _ | _ <;> rfl

end Tally

theorem Server.tally_rescale (s : Server) : s.rescale.tally = s.tally := by
  unfold rescale
  split <;> rfl

theorem Server.tally_recordOutcome (s : Server) (isError : Bool) (micros : UInt64) :
    (s.recordOutcome isError micros).tally = s.tally := by
  unfold recordOutcome
  split <;> rfl

namespace Service

def tallies (s : Service) : List Tally := s.everyone.map Server.tally

variable {s s' : Service}

theorem tallies_eq (s : Service) :
    s.tallies = s.servers.map Server.tally ++ s.retired.map Server.tally := List.map_append ..

theorem tallies_congr (servers : s'.servers.map Server.tally = s.servers.map Server.tally)
    (retired : s'.retired = s.retired) : s'.tallies = s.tallies := by
  rw [tallies_eq, tallies_eq, servers, retired]

theorem map_id_tallies (s : Service) : s.tallies.map (·.id) = s.ids := by
  rw [tallies, List.map_map, ← map_id_everyone]
  rfl

theorem tallies_acquire (now : Instant) (excluded : List Nat) :
    (s.acquire now excluded).2.tallies = s.tallies := by
  refine tallies_congr ?_ (retired_acquire now excluded).1
  rcases acquire_cases s now excluded with nothing | ⟨i, server, found, lent⟩
  · rw [nothing]
  · rw [lent, map_acquired Server.tally_rescale]
    exact map_set_same found rfl

theorem tallies_release_adaptive (now : Instant) (profile : String) (entry : Entry)
    (isError : Bool) (micros : UInt64) :
    (s.release now profile entry isError micros true).1.tallies = s.tallies :=
  tallies_congr (map_release_adaptive Server.tally_recordOutcome ..) (retired_release ..).1

-- The count of the server after the release, in the rotation or out of it.
theorem tally_release (server : Server) (isError : Bool) (configured : Option Profile) :
    (if configured.any (suspends · (server.release isError) isError)
      then (server.release isError).deactivate else server.release isError).tally
      = server.tally.next (configured.map (·.maxFails)) (some (markOf isError)) := by
  cases isError with
  | false =>
    cases configured with
    | none => rfl
    | some p => simp [suspends, markOf, Tally.next, Server.tally, Server.release]
  | true =>
    cases configured with
    | none => simp [markOf, Tally.next, Tally.reaches, Server.tally, Server.release]
    | some p =>
      cases active : server.active <;>
        cases within : (0 < p.maxFails && p.maxFails ≤ server.fails + 1 : Bool) <;>
          simp [suspends, markOf, Tally.next, Tally.reaches, Server.tally, Server.release,
            Server.deactivate, active, within]

theorem tallies_release_static {entry : Entry} {server : Server}
    (reached : s.serverOf? entry = some server) (now : Instant) (profile : String)
    (isError : Bool) (micros : UInt64) :
    (s.release now profile entry isError micros false).1.tallies
      = s.tallies.set entry.index (server.tally.next ((s.profile? profile).map (·.maxFails))
          (some (markOf isError))) := by
  have found := (serverOf?_eq_some_iff.mp reached).1
  have inside := (List.getElem?_eq_some_iff.mp found).1
  rw [tallies_eq, tallies_eq, List.set_append_left _ _ (by simpa using inside),
    (retired_release ..).1, ← tally_release]
  congr 1
  have same : (s.setServer entry.index (server.release isError)).profile? profile
    = s.profile? profile := rfl
  simp only [release, reached, Bool.false_eq_true, if_false, same]
  cases s.profile? profile with
  | none => exact List.map_set
  | some p =>
    rw [Option.any_some]
    cases leaves : suspends p (server.release isError) isError with
    | true =>
      simp only [leaves, if_true]
      exact map_suspend Server.tally_rescale ..
    | false =>
      simp only [leaves, Bool.false_eq_true, if_false]
      exact List.map_set

theorem getElem?_tallies {i : Nat} {server : Server} (found : s.servers[i]? = some server) :
    s.tallies[i]? = some server.tally := by
  have inside := (List.getElem?_eq_some_iff.mp found).1
  rw [tallies_eq, List.getElem?_append_left (by simpa using inside), List.getElem?_map, found]
  rfl

end Service

-- An action, or a scheduler of its own kind at work: it may bring any server back at any time, and
-- may let time pass without bringing back those that are due.
inductive Incident where
  | act (action : Action)
  | reactivate (id : Nat)
  | tick (nanoseconds : Nat)

namespace Moment

open Service

def meet (m : Moment) : Incident → Moment
  | .act action => m.after action
  | .reactivate id =>
    { m with service := { m.service with
        servers := reactivate [id] m.service.servers
        retired := reactivate [id] m.service.retired } }
  | .tick nanoseconds => { m with clock := m.clock + nanoseconds }

-- What an incident is to the server of an identity.
def mark? (m : Moment) (id : Nat) : Incident → Option Mark
  | .act (.release _ entry isError _ false) =>
    match m.service.serverOf? entry with
    | some server => if id = server.id then some (markOf isError) else none
    | none => none
  | .act (.pass nanoseconds) =>
    if (m.service.dueIds (m.clock + nanoseconds)).contains id then some .back else none
  | .reactivate other => if [other].contains id then some .back else none
  | _ => none

-- The limit that a static release goes by.
def limit? (m : Moment) : Incident → Option UInt32
  | .act (.release profile _ _ _ false) => (m.service.profile? profile).map (·.maxFails)
  | _ => none

variable {m : Moment}

theorem numbered_meet (numbered : m.service.Numbered) (incident : Incident) :
    (m.meet incident).service.Numbered := by
  cases incident with
  | act action => exact numbered_after numbered action
  | reactivate id =>
    refine numbered.congr ?_ rfl
    show (reactivate [id] _).map _ ++ (reactivate [id] _).map _ = _
    rw [map_reactivate Server.fixed_id.activate, map_reactivate Server.fixed_id.activate]
    rfl
  | tick nanoseconds => exact numbered.congr rfl rfl

-- Only a static release that reaches the server marks an error.
theorem reached_of_error {id : Nat} {incident : Incident}
    (marked : m.mark? id incident = some .error) :
    ∃ profile entry micros server, incident = .act (.release profile entry true micros false) ∧
      m.service.serverOf? entry = some server ∧ server.id = id := by
  unfold mark? at marked
  split at marked
  · rename_i profile entry isError micros
    split at marked
    · rename_i server reached
      split at marked
      · rename_i same
        cases isError with
        | false => cases marked
        | true => exact ⟨profile, entry, micros, server, rfl, reached, same.symm⟩
      · cases marked
    · cases marked
  · split at marked <;> cases marked
  · split at marked <;> cases marked
  · cases marked

-- Servers that are not there yet may be brought back, but they make no errors.
theorem ne_error_of_unknown (numbered : m.service.Numbered) {id : Nat}
    (unknown : m.service.nextId ≤ id) (incident : Incident) :
    m.mark? id incident ≠ some .error := by
  intro marked
  obtain ⟨_, _, _, server, _, reached, rfl⟩ := reached_of_error marked
  have listed := List.mem_of_getElem? (serverOf?_eq_some_iff.mp reached).1
  have known : server.id ∈ m.service.ids := List.mem_append_left _ (List.mem_map_of_mem listed)
  have below := numbered.lt server.id known
  omega

-- How the tally of a server goes on.
def next (m : Moment) (incident : Incident) (t : Tally) : Tally :=
  t.next (m.limit? incident) (m.mark? t.id incident)

theorem map_next_quiet {incident : Incident} (quiet : ∀ id, m.mark? id incident = none)
    (tallies : List Tally) : tallies.map (m.next incident) = tallies := by
  refine List.map_id'' (fun t => ?_) tallies
  rw [next, quiet]
  rfl

theorem tallies_update (profiles : Profiles) (specs : List ServerSpec) :
    ∃ count, (m.after (.update profiles specs)).service.tallies.Perm
        (m.service.tallies ++ (List.range' m.service.nextId count).map Tally.new) ∧
      (m.after (.update profiles specs)).service.nextId = m.service.nextId + count := by
  unfold after
  dsimp only
  split
  · rename_i service updated
    obtain ⟨fresh, perm, numbers, next, new⟩ := everyone_update updated
    refine ⟨fresh.length, ?_, next⟩
    have joined : fresh.map Server.tally
        = (List.range' m.service.nextId fresh.length).map Tally.new := by
      rw [← numbers, List.map_map]
      refine List.map_congr_left fun server member => ?_
      rw [Server.tally, (new server member).active, (new server member).fails]
      rfl
    have moved := perm.map Server.tally
    rw [List.map_append, joined] at moved
    exact moved
  · exact ⟨0, by simp, rfl⟩

theorem nodup_tallies (numbered : m.service.Numbered) : (m.service.tallies.map (·.id)).Nodup := by
  rw [map_id_tallies]
  exact numbered.nodup

theorem tallies_release (numbered : m.service.Numbered) (profile : String) (entry : Entry)
    (isError : Bool) (micros : UInt64) (adaptive : Bool) :
    let incident := Incident.act (.release profile entry isError micros adaptive)
    (m.meet incident).service.tallies = m.service.tallies.map (m.next incident) := by
  intro incident
  show (m.service.release m.clock profile entry isError micros adaptive).1.tallies = _
  cases adaptive with
  | true => rw [map_next_quiet fun _ => rfl, tallies_release_adaptive]
  | false =>
    cases reached : m.service.serverOf? entry with
    | none =>
      have quiet (id : Nat) : m.mark? id incident = none := by
        simp only [incident, mark?, reached]
      rw [release_of_none reached, map_next_quiet quiet]
    | some server =>
      have found := getElem?_tallies (serverOf?_eq_some_iff.mp reached).1
      rw [tallies_release_static reached, set_eq_map (nodup_tallies numbered) found fun t =>
        t.next ((m.service.profile? profile).map (·.maxFails)) (some (markOf isError))]
      refine List.map_congr_left fun t _ => ?_
      have mark : m.mark? t.id incident
          = if t.id = server.id then some (markOf isError) else none := by
        simp only [incident, mark?, reached]
      have key : server.tally.id = server.id := rfl
      rw [next, mark, key]
      split <;> rfl

theorem tallies_reactivated (incident : Incident) (ids : List Nat)
    (back : ∀ id, m.mark? id incident = if ids.contains id then some .back else none)
    {service : Service} (everyone : service.everyone = reactivate ids m.service.everyone) :
    service.tallies = m.service.tallies.map (m.next incident) := by
  unfold tallies
  rw [everyone, reactivate, List.map_map, List.map_map]
  refine List.map_congr_left fun server _ => ?_
  show Server.tally (if ids.contains server.id then server.activate else server)
    = m.next incident server.tally
  have mark := back server.tally.id
  have key : server.tally.id = server.id := rfl
  rw [next, mark, key]
  split <;> rfl

-- Every tally goes on by what happens to its server, and an update adds those of new servers.
theorem tallies_meet (numbered : m.service.Numbered) (incident : Incident) :
    ∃ count, (m.meet incident).service.tallies.Perm
        (m.service.tallies.map (m.next incident)
          ++ (List.range' m.service.nextId count).map Tally.new) ∧
      (m.meet incident).service.nextId = m.service.nextId + count := by
  have settled {service : Service}
      (same : service.tallies = m.service.tallies.map (m.next incident))
      (next : service.nextId = m.service.nextId) :
      ∃ count, service.tallies.Perm (m.service.tallies.map (m.next incident)
          ++ (List.range' m.service.nextId count).map Tally.new) ∧
        service.nextId = m.service.nextId + count := ⟨0, by simp [same], next⟩
  cases incident with
  | act action =>
    cases action with
    | acquire excluded =>
      refine settled ?_ (retired_acquire ..).2
      rw [map_next_quiet fun _ => rfl]
      exact tallies_acquire ..
    | release profile entry isError micros adaptive =>
      exact settled (tallies_release numbered ..) (retired_release ..).2
    | update profiles specs =>
      rw [map_next_quiet fun _ => rfl]
      exact tallies_update profiles specs
    | enable enabled =>
      refine settled ?_ rfl
      rw [map_next_quiet fun _ => rfl]
      rfl
    | pass nanoseconds =>
      refine settled ?_ (nextId_wake ..)
      exact tallies_reactivated _ _ (fun _ => rfl) (everyone_wake ..)
  | reactivate id =>
    refine settled ?_ rfl
    exact tallies_reactivated _ [id] (fun _ => rfl) List.map_append.symm
  | tick nanoseconds =>
    refine settled ?_ rfl
    rw [map_next_quiet fun _ => rfl]
    rfl

end Moment

end Balancing
