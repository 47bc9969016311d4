import Balancing.Proofs.Attempt.Session
import Balancing.Proofs.Service.Moment

namespace Balancing

structure Traffic where
  moment : Moment
  sessions : List Session := []

namespace Traffic

inductive Event where
  | begin (profile : String) (adaptive : Bool) (request : Request) (force : Bool) (words : Words)
  | move (k : Nat) (move : Move)
  | update (profiles : Profiles)
  | enable (enabled : Bool)
  | pass (nanoseconds : Nat)

def create (name : String) (datacenter : Option String) (allowRemote : Bool) (windows : Windows)
    (clock : Instant) : Traffic := { moment := .create name datacenter allowRemote windows clock }

def moved (t : Traffic) (k : Nat) (session : Session) (service : Service) : Traffic where
  moment := { t.moment with service }
  sessions := t.sessions.set k session

-- Every update publishes `specs`; only the profiles may differ.
def advance (specs : List ServerSpec) (t : Traffic) : Event → Traffic
  | .begin profile adaptive request force words =>
    { t with sessions := t.sessions ++
        (Session.begin? t.moment.service profile adaptive request force words).toList }
  | .move k move =>
    match t.sessions[k]?.bind (·.move t.moment.service t.moment.clock move) with
    | none => t
    | some (session, service) => t.moved k session service
  | .update profiles => { t with moment := t.moment.after (.update profiles specs) }
  | .enable enabled => { t with moment := t.moment.after (.enable enabled) }
  | .pass nanoseconds => { t with moment := t.moment.after (.pass nanoseconds) }

def run (specs : List ServerSpec) (t : Traffic) (events : List Event) : Traffic :=
  events.foldl (advance specs) t

-- The static attempts that await an answer of the server at a place.
def awaiting (t : Traffic) (i : Nat) : Nat :=
  t.sessions.countP fun session => session.held?.map (·.index) = some i

-- As many as a counter can hold.
def Fits (t : Traffic) : Prop := ∀ i, t.awaiting i < UInt32.size

structure Balanced (specs : List ServerSpec) (t : Traffic) : Prop where
  listed : t.moment.Listed
  -- nothing has been published yet, or what every update publishes
  fixed : t.moment.specs = [] ∨ t.moment.specs = specs
  placed : ∀ session ∈ t.sessions, ∀ entry, session.held? = some entry →
    (t.moment.specs.map (·.address))[entry.index]? = some entry.address
  counted : ∀ (i : Nat) (server : Server), t.moment.service.servers[i]? = some server →
    server.requests.toNat = t.awaiting i

end Traffic

namespace Traffic

variable {specs : List ServerSpec} {t : Traffic}

theorem balanced_create (name : String) (datacenter : Option String) (allowRemote : Bool)
    (windows : Windows) (clock : Instant) :
    Balanced specs (create name datacenter allowRemote windows clock) where
  listed := Moment.listed_create ..
  fixed := .inl rfl
  placed := by simp [create]
  counted := by simp [create, Moment.create, Service.create]

theorem countP_set_add {α : Type} {l : List α} {k : Nat} {a : α} (found : l[k]? = some a) (b : α)
    (p : α → Bool) :
    (l.set k b).countP p + (if p a then 1 else 0) = l.countP p + if p b then 1 else 0 := by
  obtain ⟨inside, there⟩ := List.getElem?_eq_some_iff.mp found
  have counted := List.countP_set (p := p) (a := b) inside
  rw [there] at counted
  have some : p a → 0 < l.countP p := fun holds =>
    List.countP_pos_iff.mpr ⟨a, List.mem_of_getElem? found, holds⟩
  by_cases holds : p a
  · have := some holds
    rw [if_pos holds] at counted ⊢
    omega
  · rw [if_neg holds] at counted ⊢
    omega

def holds (session : Session) (i : Nat) : Nat :=
  if session.held?.map (·.index) = some i then 1 else 0

theorem holds_of_none {session : Session} (none : session.held? = none) (i : Nat) :
    holds session i = 0 := by
  unfold holds
  rw [none]
  rfl

theorem holds_of_some {session : Session} {entry : Entry} (held : session.held? = some entry)
    (i : Nat) : holds session i = if entry.index = i then 1 else 0 := by
  unfold holds
  rw [held]
  simp

theorem awaiting_moved {k : Nat} {session : Session} (found : t.sessions[k]? = some session)
    (session' : Session) (service' : Service) (i : Nat) :
    (t.moved k session' service').awaiting i + holds session i
      = t.awaiting i + holds session' i := by
  have counted := countP_set_add found session'
    (fun session => session.held?.map (·.index) = some i)
  simp only [decide_eq_true_eq] at counted
  exact counted

-- A session may change its hold on a place, if the counter there changes as much.
theorem balanced_moved (balanced : t.Balanced specs) {k : Nat} {session session' : Session}
    {service' : Service} (found : t.sessions[k]? = some session)
    (listed : (t.moved k session' service').moment.Listed)
    (placed : ∀ entry, session'.held? = some entry →
      (t.moment.specs.map (·.address))[entry.index]? = some entry.address)
    (counted : ∀ i server', service'.servers[i]? = some server' →
      ∃ server, t.moment.service.servers[i]? = some server ∧
        server'.requests.toNat + holds session i = server.requests.toNat + holds session' i) :
    (t.moved k session' service').Balanced specs where
  listed := listed
  fixed := balanced.fixed
  placed other member entry held := by
    rcases List.mem_or_eq_of_mem_set member with old | rfl
    · exact balanced.placed other old entry held
    · exact placed entry held
  counted i server' there := by
    obtain ⟨server, before, same⟩ := counted i server' there
    have := balanced.counted i server before
    have := awaiting_moved found session' service' i
    omega

-- Counters that are the same at every place.
theorem counted_of_same {service service' : Service}
    (same : service'.servers.map (·.requests) = service.servers.map (·.requests)) {i : Nat}
    {server' : Server} (there : service'.servers[i]? = some server') :
    ∃ server, service.servers[i]? = some server ∧ server'.requests = server.requests := by
  have requests : (service'.servers.map (·.requests))[i]? = some server'.requests := by
    rw [List.getElem?_map, there]
    rfl
  rw [same, List.getElem?_map] at requests
  obtain ⟨server, before, equal⟩ := Option.map_eq_some_iff.mp requests
  exact ⟨server, before, equal.symm⟩

-- Counters that differ at one place only.
theorem counted_of_set {service service' : Service} {j : Nat} {requests : UInt32}
    (set : service'.servers.map (·.requests) = (service.servers.map (·.requests)).set j requests)
    {i : Nat} {server' : Server} (there : service'.servers[i]? = some server') :
    ∃ server, service.servers[i]? = some server ∧
      server'.requests = if j = i then requests else server.requests := by
  have now : (service'.servers.map (·.requests))[i]? = some server'.requests := by
    rw [List.getElem?_map, there]
    rfl
  rw [set] at now
  have inside : i < service.servers.length := by
    have := (List.getElem?_eq_some_iff.mp now).1
    simpa using this
  refine ⟨service.servers[i], List.getElem?_eq_getElem inside, ?_⟩
  by_cases here : j = i
  · subst here
    rw [List.getElem?_set_self (by simpa using inside)] at now
    rw [if_pos rfl]
    exact (Option.some.inj now).symm
  · rw [List.getElem?_set_ne here, List.getElem?_map, List.getElem?_eq_getElem inside] at now
    rw [if_neg here]
    exact (Option.some.inj now).symm

theorem balanced_lent (balanced : t.Balanced specs) {k : Nat} {session session' : Session}
    {service' : Service} {excluded : List Nat} {entry : Entry}
    (found : t.sessions[k]? = some session) (before : session.held? = none)
    (acquired : t.moment.service.acquire t.moment.clock excluded = (some entry, service'))
    (after : session'.held? = some entry) (fits : (t.moved k session' service').Fits) :
    (t.moved k session' service').Balanced specs := by
  obtain ⟨server, place, same, rfl⟩ := Service.acquire_some acquired
  refine balanced_moved balanced found ?_ ?_ ?_
  · refine balanced.listed.congr rfl ?_
    have kept := Service.map_acquire Server.fixed_isOf t.moment.service t.moment.clock excluded
    rw [acquired] at kept
    exact kept
  · intro other held
    rw [after] at held
    cases held
    rw [← Moment.addresses_of_listed balanced.listed, List.getElem?_map, place, same]
    rfl
  · intro i server' there
    have set := Service.map_acquired Server.steady_requests.rescale t.moment.service entry.index
      server.acquire
    obtain ⟨old, was, now⟩ := counted_of_set set there
    refine ⟨old, was, ?_⟩
    rw [holds_of_none before, holds_of_some after]
    by_cases here : entry.index = i
    · subst here
      rw [place] at was
      cases was
      -- one more is awaited there, and still few enough for the counter
      have room := fits entry.index
      have one := awaiting_moved found session' (t.moment.service.setServer entry.index
        server.acquire).rescale entry.index
      rw [holds_of_none before, holds_of_some after, if_pos rfl] at one
      have counted := balanced.counted entry.index server place
      rw [if_pos rfl] at now
      rw [now, if_pos rfl]
      show (server.requests + 1).toNat + 0 = _
      rw [UInt32.toNat_add, Nat.mod_eq_of_lt]
      · rfl
      · show server.requests.toNat + 1 < UInt32.size
        omega
    · rw [if_neg here] at now ⊢
      rw [now]

-- The server of a held entry is in its place, and the attempt is counted on it.
theorem held_counted (balanced : t.Balanced specs) {k : Nat} {session : Session} {entry : Entry}
    (found : t.sessions[k]? = some session) (held : session.held? = some entry) :
    ∃ server, t.moment.service.serverOf? entry = some server ∧ 0 < server.requests.toNat := by
  have placed := balanced.placed session (List.mem_of_getElem? found) entry held
  rw [← Moment.addresses_of_listed balanced.listed, List.getElem?_map] at placed
  obtain ⟨server, place, address⟩ := Option.map_eq_some_iff.mp placed
  refine ⟨server, Service.serverOf?_eq_some_iff.mpr ⟨place, address⟩, ?_⟩
  rw [balanced.counted entry.index server place]
  refine List.countP_pos_iff.mpr ⟨session, List.mem_of_getElem? found, ?_⟩
  simp [held]

theorem balanced_returned (balanced : t.Balanced specs) {k : Nat} {session session' : Session}
    {entry : Entry} (found : t.sessions[k]? = some session) (before : session.held? = some entry)
    (after : session'.held? = none) (profile : String) (isError : Bool) (micros : UInt64) :
    (t.moved k session'
      (t.moment.service.release t.moment.clock profile entry isError micros false).1).Balanced
        specs := by
  obtain ⟨server, reached, counted⟩ := held_counted balanced found before
  have place := (Service.serverOf?_eq_some_iff.mp reached).1
  refine balanced_moved balanced found ?_ ?_ ?_
  · exact balanced.listed.congr rfl (Service.map_release Server.fixed_isOf ..)
  · intro other held
    rw [after] at held
    cases held
  · intro i server' there
    have set := Service.map_release_static Server.steady_requests reached t.moment.clock profile
      isError micros
    obtain ⟨old, was, now⟩ := counted_of_set set there
    refine ⟨old, was, ?_⟩
    rw [holds_of_none after, holds_of_some before]
    by_cases here : entry.index = i
    · subst here
      rw [place] at was
      cases was
      rw [if_pos rfl] at now ⊢
      have pos : server.requests ≠ 0 := by
        intro zero
        rw [zero] at counted
        cases counted
      have one : (1 : UInt32) ≤ server.requests := UInt32.le_iff_toNat_le.mpr counted
      rw [now]
      show (if server.requests = 0 then 0 else server.requests - 1).toNat + 1 = _
      rw [if_neg pos, UInt32.toNat_sub_of_le _ _ one]
      exact Nat.sub_add_cancel counted
    · rw [if_neg here] at now ⊢
      rw [now]

theorem balanced_move (balanced : t.Balanced specs) {k : Nat} {session session' : Session}
    {service' : Service} (found : t.sessions[k]? = some session)
    (moves : session.Moves t.moment.service t.moment.clock session' service')
    (fits : (t.moved k session' service').Fits) : (t.moved k session' service').Balanced specs := by
  cases moves with
  | idle before after =>
    refine balanced_moved balanced found balanced.listed ?_ ?_
    · intro entry held
      rw [after] at held
      cases held
    · intro i server there
      refine ⟨server, there, ?_⟩
      rw [holds_of_none before, holds_of_none after]
  | lent before acquired after => exact balanced_lent balanced found before acquired after fits
  | returned before isError micros after =>
    exact balanced_returned balanced found before after session.profile isError micros
  | reported before entry isError micros after =>
    refine balanced_moved balanced found ?_ ?_ ?_
    · exact balanced.listed.congr rfl (Service.map_release Server.fixed_isOf ..)
    · intro entry held
      rw [after] at held
      cases held
    · intro i server' there
      have same : (t.moment.service.release t.moment.clock session.profile entry isError micros
          true).1.servers.map (·.requests) = t.moment.service.servers.map (·.requests) := by
        refine Service.map_release_adaptive (fun server isError micros => ?_) ..
        unfold Server.recordOutcome
        split <;> rfl
      obtain ⟨server, was, equal⟩ := counted_of_same same there
      refine ⟨server, was, ?_⟩
      rw [holds_of_none before, holds_of_none after, equal]

-- Every server fits its own descriptor again and is the first that may.
theorem update_same {m : Moment} (listed : m.Listed) (profiles : Profiles) :
    (m.after (.update profiles m.specs)).service.servers = m.service.servers := by
  unfold Moment.after Service.update
  dsimp only
  rw [Service.roster_same listed]
  rfl

theorem awaiting_eq_zero (balanced : t.Balanced specs) (empty : t.moment.specs = []) (i : Nat) :
    t.awaiting i = 0 := by
  refine List.countP_eq_zero.mpr fun session member => ?_
  cases held : session.held? with
  | none => simp
  | some entry =>
    have placed := balanced.placed session member entry held
    rw [empty] at placed
    cases placed

theorem specs_update {m : Moment} (published : m.specs = specs) (profiles : Profiles) :
    (m.after (.update profiles specs)).specs = specs := by
  unfold Moment.after
  dsimp only
  split
  · rfl
  · exact published

theorem balanced_republished (balanced : t.Balanced specs) (published : t.moment.specs = specs)
    (profiles : Profiles) : (t.advance specs (.update profiles)).Balanced specs := by
  have same := update_same balanced.listed profiles
  rw [published] at same
  have specs' := specs_update published profiles
  refine ⟨Moment.listed_after balanced.listed _, .inr specs', ?_, ?_⟩
  · intro session member entry held
    show ((t.moment.after _).specs.map _)[_]? = _
    rw [specs', ← published]
    exact balanced.placed session member entry held
  · intro i server there
    have there : (t.moment.after (.update profiles specs)).service.servers[i]? = some server :=
      there
    rw [same] at there
    exact balanced.counted i server there

theorem servers_of_unpublished {m : Moment} (listed : m.Listed) (empty : m.specs = []) :
    m.service.servers = [] := by
  unfold Moment.Listed at listed
  rw [empty] at listed
  cases found : m.service.servers with
  | nil => rfl
  | cons server servers =>
    rw [found] at listed
    cases listed

-- Nobody waits yet, and all the servers are new.
theorem balanced_published (balanced : t.Balanced specs) (empty : t.moment.specs = [])
    {profiles : Profiles} {service : Service}
    (updated : t.moment.service.update t.moment.clock profiles specs = .ok service) :
    Balanced specs { t with moment := { t.moment with service, specs } } := by
  have none := servers_of_unpublished balanced.listed empty
  obtain ⟨r, slowStart, made, rfl⟩ := Service.update_ok updated
  rw [none] at made
  refine ⟨Service.roster_isOf made, .inr rfl, ?_, ?_⟩
  · intro session member entry held
    have placed := balanced.placed session member entry held
    rw [empty] at placed
    cases placed
  · intro i server there
    show _ = t.awaiting i
    obtain ⟨fresh, perm, _, _, new⟩ := Service.roster_perm made
    have member := perm.mem_iff.mp (List.mem_append_left _ (List.mem_of_getElem? there))
    rw [List.nil_append] at member
    rw [awaiting_eq_zero balanced empty, (new server member).requests]
    rfl

theorem balanced_update (balanced : t.Balanced specs) (profiles : Profiles) :
    (t.advance specs (.update profiles)).Balanced specs := by
  by_cases published : t.moment.specs = specs
  · exact balanced_republished balanced published profiles
  · have empty := balanced.fixed.resolve_right published
    unfold advance Moment.after
    dsimp only
    split
    · exact balanced_published balanced empty ‹_›
    · exact balanced

theorem balanced_begun (balanced : t.Balanced specs) {begun : List Session}
    (idle : ∀ session ∈ begun, session.held? = none) :
    Balanced specs { t with sessions := t.sessions ++ begun } := by
  refine ⟨balanced.listed, balanced.fixed, ?_, ?_⟩
  · intro session member entry held
    rcases List.mem_append.mp member with old | new
    · exact balanced.placed session old entry held
    · rw [idle session new] at held
      cases held
  · intro i server there
    have none : begun.countP (fun session => session.held?.map (·.index) = some i) = 0 := by
      refine List.countP_eq_zero.mpr fun session new => ?_
      rw [idle session new]
      simp
    show _ = List.countP _ (t.sessions ++ begun)
    rw [List.countP_append, none]
    exact balanced.counted i server there

theorem balanced_advance (balanced : t.Balanced specs) (event : Event)
    (fits : (t.advance specs event).Fits) : (t.advance specs event).Balanced specs := by
  cases event with
  | begin profile adaptive request force words =>
    exact balanced_begun balanced fun session begun =>
      Session.held?_of_looking (Session.looking_of_begin (Option.mem_toList.mp begun))
  | move k move =>
    unfold advance at fits ⊢
    dsimp only at fits ⊢
    split
    · exact balanced
    · rename_i session' service' moved
      rw [moved] at fits
      obtain ⟨session, found, moved⟩ := Option.bind_eq_some_iff.mp moved
      exact balanced_move balanced found (Session.moves_of_move moved) fits
  | update profiles => exact balanced_update balanced profiles
  | enable enabled => exact ⟨balanced.listed, balanced.fixed, balanced.placed, balanced.counted⟩
  | pass nanoseconds =>
    refine ⟨Moment.listed_after balanced.listed _, balanced.fixed, balanced.placed, ?_⟩
    intro i server' there
    obtain ⟨server, was, equal⟩ := counted_of_same
      (Service.map_wake Server.steady_requests.activate t.moment.service _) there
    rw [equal]
    exact balanced.counted i server was

theorem balanced_run (balanced : t.Balanced specs) (events : List Event)
    (fits : ∀ n, (t.run specs (events.take n)).Fits) : (t.run specs events).Balanced specs := by
  induction events generalizing t with
  | nil => exact balanced
  | cons event events ih =>
    have first := balanced_advance balanced event (fits 1)
    exact ih first fun n => fits (n + 1)

-- Every request begins with an event, so a run of few events stays within the counters.
theorem length_sessions_advance (t : Traffic) (event : Event) :
    (t.advance specs event).sessions.length ≤ t.sessions.length + 1 := by
  cases event with
  | begin profile adaptive request force words =>
    show (t.sessions ++ _).length ≤ _
    rw [List.length_append]
    exact Nat.add_le_add_left Option.length_toList_le _
  | move k move =>
    unfold advance
    dsimp only
    split
    · exact Nat.le_succ _
    · show (t.sessions.set k _).length ≤ _
      rw [List.length_set]
      exact Nat.le_succ _
  | update profiles => exact Nat.le_succ _
  | enable enabled => exact Nat.le_succ _
  | pass nanoseconds => exact Nat.le_succ _

theorem length_sessions_run (t : Traffic) (events : List Event) :
    (t.run specs events).sessions.length ≤ t.sessions.length + events.length := by
  induction events generalizing t with
  | nil => exact Nat.le_refl _
  | cons event events ih =>
    have first : (t.advance specs event).sessions.length ≤ _ := length_sessions_advance t event
    have rest := ih (t.advance specs event)
    rw [List.length_cons]
    exact Nat.le_trans rest (by omega)

theorem fits_of_length (t : Traffic) {events : List Event}
    (few : t.sessions.length + events.length < UInt32.size) (n : Nat) :
    (t.run specs (events.take n)).Fits := by
  intro i
  have counted : (t.run specs (events.take n)).awaiting i
      ≤ (t.run specs (events.take n)).sessions.length := List.countP_le_length
  have long : (t.run specs (events.take n)).sessions.length ≤ _ :=
    length_sessions_run t (events.take n)
  rw [List.length_take] at long
  omega

theorem counters_of_traffic (name : String) (datacenter : Option String) (allowRemote : Bool)
    (windows : Windows) (clock : Instant) (specs : List ServerSpec) (events : List Event)
    (fits : ∀ n, ((create name datacenter allowRemote windows clock).run specs
      (events.take n)).Fits) :
    let t := (create name datacenter allowRemote windows clock).run specs events
    (∀ (i : Nat) (server : Server), t.moment.service.servers[i]? = some server →
      server.requests.toNat = t.awaiting i) ∧
    (∀ session ∈ t.sessions, ∀ entry, session.held? = some entry →
      ∃ server, t.moment.service.serverOf? entry = some server ∧ 0 < server.requests.toNat) ∧
    ((∀ session ∈ t.sessions, ¬session.stage.isAwaiting) →
      ∀ server ∈ t.moment.service.servers, server.requests = 0) ∧
    (t.moment.specs = specs → ∀ profiles,
      (t.advance specs (.update profiles)).moment.service.servers = t.moment.service.servers) := by
  intro t
  have balanced : t.Balanced specs := balanced_run (balanced_create ..) events fits
  refine ⟨balanced.counted, ?_, ?_, ?_⟩
  · intro session member entry held
    obtain ⟨k, found⟩ := List.mem_iff_getElem?.mp member
    exact held_counted balanced found held
  · intro idle server listed
    obtain ⟨i, there⟩ := List.mem_iff_getElem?.mp listed
    have none : t.awaiting i = 0 := by
      refine List.countP_eq_zero.mpr fun session member => ?_
      rw [Session.held?_of_idle (idle session member)]
      simp
    have counted := balanced.counted i server there
    rw [none] at counted
    exact UInt32.toNat_inj.mp counted
  · intro published profiles
    have same := update_same balanced.listed profiles
    rw [published] at same
    exact same

-- Two requests at once; one gets its answer, the other is refused its second attempt because the
-- service has been disabled by then.
theorem two_requests_counted :
    let specs : List ServerSpec := [{ address := "a:80" }]
    let get : Request := { method := "GET", uri := ⟨none, some "shop", some .root⟩ }
    let waiting : List Event := [.update .empty, .begin "default" false get false default,
      .begin "default" false get false default, .move 0 .look, .move 1 .look]
    let ending : List Event := waiting ++ [.move 0 (.answer ⟨{ status := 200 }, .zero⟩),
      .enable false, .move 1 (.answer ⟨.connectError, .zero⟩), .move 1 .look]
    let t := (create "shop" none false {} 0).run specs waiting
    let ended := (create "shop" none false {} 0).run specs ending
    (∃ server, t.moment.service.servers[0]? = some server ∧ server.requests.toNat = 2) ∧
      ended.sessions.length = 2 ∧ ∀ server ∈ ended.moment.service.servers, server.requests = 0 := by
  intro specs get waiting ending
  have facts : ((create "shop" none false {} 0).run specs waiting).moment.service.servers.length
        = 1 ∧
      ((create "shop" none false {} 0).run specs waiting).awaiting 0 = 2 ∧
      ((create "shop" none false {} 0).run specs ending).sessions.map (·.stage.isAwaiting)
        = [false, false] := by
    decide +kernel +revert
  have few : ∀ n, ((create "shop" none false {} 0).run specs (waiting.take n)).Fits := by
    refine fits_of_length (create "shop" none false {} 0) ?_
    show 0 + 5 < UInt32.size
    decide
  have few' : ∀ n, ((create "shop" none false {} 0).run specs (ending.take n)).Fits := by
    refine fits_of_length (create "shop" none false {} 0) ?_
    show 0 + 9 < UInt32.size
    decide
  have during := counters_of_traffic "shop" none false {} 0 specs waiting few
  have after := counters_of_traffic "shop" none false {} 0 specs ending few'
  dsimp only at during after ⊢
  generalize (create "shop" none false {} 0).run specs waiting = t at *
  generalize (create "shop" none false {} 0).run specs ending = ended at *
  obtain ⟨one, two, idle⟩ := facts
  refine ⟨?_, ?_, ?_⟩
  · obtain ⟨server, only⟩ := List.length_eq_one_iff.mp one
    have there : t.moment.service.servers[0]? = some server := by
      rw [only]
      rfl
    exact ⟨server, there, (during.1 0 server there).trans two⟩
  · have long := congrArg List.length idle
    rw [List.length_map] at long
    exact long
  · refine after.2.2.1 fun session member awaiting => ?_
    have listed : session.stage.isAwaiting ∈ ended.sessions.map (·.stage.isAwaiting) :=
      List.mem_map_of_mem member
    rw [idle, awaiting] at listed
    exact absurd listed (by decide)

end Traffic

end Balancing
