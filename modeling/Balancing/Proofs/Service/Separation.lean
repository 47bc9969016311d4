import Balancing.Proofs.Service.Moment
import Mathlib.Data.List.Perm.Subperm

namespace Balancing

-- Windows that tell nothing.
def ErrorWindow.void : ErrorWindow := ⟨0, .ofSlots #[false] (by decide), 0⟩

def LatencyWindow.void : LatencyWindow := ⟨.ofSlots #[0] (by decide), 0, false, none⟩

namespace Server

-- A server as static requests see it.
def unmeasured (s : Server) : Server := { s with errors := .void, latencies := .void }

theorem map_unmeasured_twice (servers : List Server) :
    (servers.map unmeasured).map unmeasured = servers.map unmeasured := by
  rw [List.map_map]
  rfl

theorem unmeasured_rescale (s : Server) : s.rescale.unmeasured = s.unmeasured.rescale := by
  unfold rescale
  show _ = if s.weight ≤ s.statsRequests then _ else _
  split <;> rfl

theorem unmeasured_recordOutcome (s : Server) (isError : Bool) (micros : UInt64) :
    (s.recordOutcome isError micros).unmeasured = s.unmeasured := by
  unfold recordOutcome
  split <;> rfl

end Server

theorem Rescale.map_unmeasured_oneSide (datacenter : Option String) (remote : Bool)
    (servers : List Server) :
    (oneSide datacenter remote servers).map Server.unmeasured
      = oneSide datacenter remote (servers.map Server.unmeasured) := by
  have same (servers : List Server) :
      isSaturated (onSide datacenter remote) (servers.map Server.unmeasured)
        = isSaturated (onSide datacenter remote) servers := by
    unfold isSaturated
    rw [List.any_map, List.all_map]
    rfl
  fun_induction oneSide datacenter remote servers with
  | case1 servers full ih =>
    have passed : (pass (onSide datacenter remote) servers).map Server.unmeasured
        = pass (onSide datacenter remote) (servers.map Server.unmeasured) := by
      rw [pass, pass, List.map_map, List.map_map]
      refine List.map_congr_left fun s _ => ?_
      show Server.unmeasured (if onSide datacenter remote s then s.rescale else s)
        = if onSide datacenter remote s then s.unmeasured.rescale else s.unmeasured
      rw [apply_ite Server.unmeasured, Server.unmeasured_rescale]
    rw [ih, passed, oneSide.eq_1 datacenter remote (servers.map Server.unmeasured), same,
      if_pos full]
  | case2 servers short =>
    rw [oneSide, same, if_neg short]

theorem LeastLoaded.select?_unmeasured (servers : List Server) (excluded : List Nat)
    (datacenter : Option String) (allowRemote : Bool) (now : Instant) :
    select? (servers.map Server.unmeasured) excluded datacenter allowRemote now
      = select? servers excluded datacenter allowRemote now := by
  have racks : racksAt (servers.map Server.unmeasured) excluded = racksAt servers excluded := by
    unfold racksAt
    refine List.filterMap_congr fun i _ => ?_
    rw [List.getElem?_map]
    cases servers[i]? <;> rfl
  unfold select? candidates
  rw [racks, List.zipIdx_map, List.filterMap_map]
  rfl

namespace Service

def unmeasured (s : Service) : Service :=
  { s with
    servers := s.servers.map Server.unmeasured
    retired := s.retired.map Server.unmeasured }

theorem unmeasured_unmeasured (s : Service) : s.unmeasured.unmeasured = s.unmeasured := by
  unfold unmeasured
  simp only [Server.map_unmeasured_twice]

theorem unmeasured_rescale (s : Service) : s.rescale.unmeasured = s.unmeasured.rescale := by
  unfold rescale unmeasured Rescale.bothSides
  simp only [Rescale.map_unmeasured_oneSide]

theorem unmeasured_setServer (s : Service) (i : Nat) (server : Server) :
    (s.setServer i server).unmeasured = s.unmeasured.setServer i server.unmeasured := by
  unfold setServer unmeasured
  simp only [List.map_set]

theorem acquire_unmeasured (s : Service) (now : Instant) (excluded : List Nat) :
    s.unmeasured.acquire now excluded
      = ((s.acquire now excluded).1, (s.acquire now excluded).2.unmeasured) := by
  have chosen : LeastLoaded.select? s.unmeasured.servers excluded s.unmeasured.datacenter
      s.unmeasured.allowRemote now
      = LeastLoaded.select? s.servers excluded s.datacenter s.allowRemote now :=
    LeastLoaded.select?_unmeasured ..
  unfold acquire
  rw [chosen]
  cases LeastLoaded.select? s.servers excluded s.datacenter s.allowRemote now with
  | none => rfl
  | some i =>
    have found : s.unmeasured.servers[i]? = s.servers[i]?.map Server.unmeasured := List.getElem?_map
    dsimp only
    rw [found]
    cases s.servers[i]? with
    | none => rfl
    | some server =>
      dsimp only [Option.map_some]
      rw [unmeasured_rescale, unmeasured_setServer]
      rfl

theorem serverOf?_unmeasured (s : Service) (entry : Entry) :
    s.unmeasured.serverOf? entry = (s.serverOf? entry).map Server.unmeasured := by
  have found : s.unmeasured.servers[entry.index]?
      = s.servers[entry.index]?.map Server.unmeasured := List.getElem?_map
  unfold serverOf?
  rw [found]
  cases s.servers[entry.index]? with
  | none => rfl
  | some server =>
    show (if server.address = entry.address then some server.unmeasured else none)
      = Option.map Server.unmeasured (if server.address = entry.address then some server else none)
    split <;> rfl

theorem suspend_unmeasured (s : Service) (now : Instant) (i : Nat) (server : Server)
    (delay : Duration) :
    s.unmeasured.suspend now i server.unmeasured delay
      = (s.suspend now i server delay).unmeasured := by
  have out := unmeasured_setServer s i server.deactivate
  unfold suspend
  rw [unmeasured_rescale]
  show rescale { s.unmeasured.setServer i server.deactivate.unmeasured with
    pending := s.pending ++ [⟨now + delay.nanoseconds, server.id⟩] } = _
  rw [← out]
  rfl

theorem release_unmeasured (s : Service) (now : Instant) (profile : String) (entry : Entry)
    (isError : Bool) (micros : UInt64) :
    s.unmeasured.release now profile entry isError micros false
      = ((s.release now profile entry isError micros false).1.unmeasured,
        (s.release now profile entry isError micros false).2) := by
  unfold release
  rw [serverOf?_unmeasured]
  cases s.serverOf? entry with
  | none => rfl
  | some server =>
    have released : s.unmeasured.setServer entry.index (server.unmeasured.release isError)
        = (s.setServer entry.index (server.release isError)).unmeasured :=
      (unmeasured_setServer s entry.index (server.release isError)).symm
    have configured (s : Service) : s.unmeasured.profile? profile = s.profile? profile := rfl
    have leaves (p : Profile) : suspends p (server.unmeasured.release isError) isError
        = suspends p (server.release isError) isError := rfl
    simp only [Option.map_some, Bool.false_eq_true, if_false, released, configured, leaves]
    split
    · rfl
    · split
      · exact Prod.ext (suspend_unmeasured _ now entry.index (server.release isError) _) rfl
      · rfl

-- An adaptive release cannot be seen.
theorem unmeasured_release_adaptive (s : Service) (now : Instant) (profile : String)
    (entry : Entry) (isError : Bool) (micros : UInt64) :
    (s.release now profile entry isError micros true).1.unmeasured = s.unmeasured := by
  have servers := map_release_adaptive Server.unmeasured_recordOutcome s now profile entry isError
    micros
  cases reached : s.serverOf? entry with
  | none => rw [release_of_none reached]
  | some server =>
    rw [release_adaptive reached] at servers ⊢
    unfold unmeasured
    rw [servers]
    rfl

theorem wake_unmeasured (s : Service) (now : Instant) :
    s.unmeasured.wake now = (s.wake now).unmeasured := by
  have awake (ids : List Nat) (servers : List Server) :
      reactivate ids (servers.map Server.unmeasured)
        = (reactivate ids servers).map Server.unmeasured := by
    unfold reactivate
    rw [List.map_map, List.map_map]
    refine List.map_congr_left fun server _ => ?_
    show (if ids.contains server.id then server.unmeasured.activate else server.unmeasured) = _
    rw [Function.comp_apply, apply_ite Server.unmeasured]
    rfl
  rw [wake_eq, wake_eq]
  unfold unmeasured
  dsimp only
  rw [awake, awake]
  rfl

def Roster.unmeasured (r : Roster) : Roster :=
  { r with servers := r.servers.map Server.unmeasured, left := r.left.map Server.unmeasured }

theorem takeFirst_unmeasured (spec : ServerSpec) (free : List Server) :
    takeFirst (·.isOf spec) (free.map Server.unmeasured)
      = (takeFirst (·.isOf spec) free).map fun (server, others) =>
        (server.unmeasured, others.map Server.unmeasured) := by
  induction free with
  | nil => rfl
  | cons server free ih =>
    have fits : server.unmeasured.isOf spec = server.isOf spec := rfl
    rw [List.map_cons, takeFirst, takeFirst, ih, fits]
    split
    · rfl
    · cases takeFirst (·.isOf spec) free <;> rfl

-- New servers begin with windows of their own, whoever is there already.
theorem roster_unmeasured (windows : Windows) (slowStart : Option SlowStart) (free : List Server)
    (nextId : Nat) (specs : List ServerSpec) :
    (roster windows slowStart (free.map Server.unmeasured) nextId specs).map Roster.unmeasured
      = (roster windows slowStart free nextId specs).map Roster.unmeasured := by
  have joined (server : Server) (later : Except ServerError Roster) :
      (do let r ← later
          return { r with servers := server :: r.servers }).map Roster.unmeasured
        = (later.map Roster.unmeasured).map fun r =>
          { r with servers := server.unmeasured :: r.servers } := by
    cases later <;> rfl
  induction specs generalizing free nextId with
  | nil =>
    show Except.ok _ = Except.ok _
    simp only [Roster.unmeasured, Server.map_unmeasured_twice]
  | cons spec specs ih =>
    rw [roster, roster, takeFirst_unmeasured]
    cases takeFirst (·.isOf spec) free with
    | some taken =>
      dsimp only [Option.map_some]
      rw [joined, joined, ih]
      rfl
    | none =>
      cases Server.build nextId spec windows slowStart with
      | error e => rfl
      | ok server =>
        refine (joined server _).trans (Eq.trans ?_ (joined server _).symm)
        rw [ih]

theorem update_unmeasured (s : Service) (now : Instant) (profiles : Profiles)
    (specs : List ServerSpec) :
    (s.unmeasured.update now profiles specs).map unmeasured
      = (s.update now profiles specs).map unmeasured := by
  have starts (default : Profile) :
      s.unmeasured.slowStart? now default = s.slowStart? now default := by
    unfold slowStart? unmeasured
    rw [List.isEmpty_map]
  have set (made : Except ServerError Roster) (s' : Service) (retired : List Server) :
      (do let r ← made
          return { s' with
            servers := r.servers
            retired := retired ++ r.left
            nextId := r.nextId }).map unmeasured
        = (made.map Roster.unmeasured).map fun r =>
          { s' with
            servers := r.servers
            retired := retired.map Server.unmeasured ++ r.left
            nextId := r.nextId } := by
    cases made with
    | error e => rfl
    | ok r =>
      show Except.ok _ = Except.ok _
      simp only [unmeasured, Roster.unmeasured, List.map_append]
  unfold update
  dsimp only
  rw [starts]
  refine (set _ { s.unmeasured with profiles := withDefault profiles } _).trans ?_
  refine Eq.trans ?_ (set _ { s with profiles := withDefault profiles } _).symm
  rw [← roster_unmeasured s.windows _ s.servers]
  show Except.map _ _ = Except.map _ _
  simp only [unmeasured, Server.map_unmeasured_twice]

end Service

-- Who a server is, and what its windows hold.
def Server.measure (s : Server) : Nat × ErrorWindow × LatencyWindow := (s.id, s.errors, s.latencies)

theorem Server.steady_measure : Steady measure where
  rescale s := by
    unfold rescale
    split <;> rfl
  activate _ := rfl
  deactivate _ := rfl

namespace Service

def measures (s : Service) : List (Nat × ErrorWindow × LatencyWindow) :=
  s.everyone.map Server.measure

variable {s s' : Service}

theorem measures_congr (servers : s'.servers.map Server.measure = s.servers.map Server.measure)
    (retired : s'.retired = s.retired) : s'.measures = s.measures := by
  unfold measures everyone
  rw [List.map_append, List.map_append, servers, retired]

theorem measures_acquire (s : Service) (now : Instant) (excluded : List Nat) :
    (s.acquire now excluded).2.measures = s.measures := by
  refine measures_congr ?_ (retired_acquire now excluded).1
  rcases acquire_cases s now excluded with nothing | ⟨i, server, found, lent⟩
  · rw [nothing]
  · rw [lent, map_acquired Server.steady_measure.rescale]
    exact map_set_same found rfl

theorem measures_release (s : Service) (now : Instant) (profile : String) (entry : Entry)
    (isError : Bool) (micros : UInt64) :
    (s.release now profile entry isError micros false).1.measures = s.measures := by
  cases reached : s.serverOf? entry with
  | none => rw [release_of_none reached]
  | some server =>
    refine measures_congr ?_ (retired_release ..).1
    rw [map_release_static Server.steady_measure reached]
    exact map_set_same (serverOf?_eq_some_iff.mp reached).1 rfl

theorem measures_wake (s : Service) (now : Instant) : (s.wake now).measures = s.measures := by
  rw [wake_eq]
  unfold measures everyone
  dsimp only
  rw [List.map_append, List.map_append, map_reactivate Server.steady_measure.activate,
    map_reactivate Server.steady_measure.activate]

-- An update carries windows over or leaves them with the servers that it replaces.
theorem measures_update {now : Instant} {profiles : Profiles} {specs : List ServerSpec}
    (updated : s.update now profiles specs = .ok s') : s.measures.Subperm s'.measures := by
  obtain ⟨fresh, perm, _⟩ := everyone_update updated
  unfold measures
  refine List.Subperm.trans ?_ (perm.map Server.measure).symm.subperm
  rw [List.map_append]
  exact (List.sublist_append_left ..).subperm

end Service

namespace Moment

-- An action, or an adaptive acquire with the words that it draws from.
inductive Step where
  | act (action : Action)
  | draw (count : Nat) (words : Words)

-- Whether a step has nothing to do with adaptive requests.
def Step.isStatic : Step → Bool
  | .act (.release _ _ _ _ adaptive) => !adaptive
  | .act _ => true
  | .draw _ _ => false

-- What the caller of a step learns from it.
inductive Answer where
  | nothing
  | entry (found : Option Entry)
  | suspended (notes : List Suspension)
  | failed (e : ServerError)
  | entries (drawn : Except Breakdown (List Entry))

-- A draw hands out entries and leaves the service as it is.
def take (m : Moment) : Step → Moment
  | .act action => m.after action
  | .draw _ _ => m

def answer (m : Moment) : Step → Answer
  | .act (.acquire excluded) => .entry (m.service.acquire m.clock excluded).1
  | .act (.release profile entry isError micros adaptive) =>
    .suspended (m.service.release m.clock profile entry isError micros adaptive).2
  | .act (.update profiles specs) =>
    match m.service.update m.clock profiles specs with
    | .ok _ => .nothing
    | .error e => .failed e
  | .act _ => .nothing
  | .draw count words =>
    .entries ((m.service.acquireAdaptive Words.below count words).map Prod.fst)

def takeAll (m : Moment) (steps : List Step) : Moment := steps.foldl take m

-- What the static steps of a run answer.
def answers (m : Moment) : List Step → List Answer
  | [] => []
  | step :: steps =>
    if step.isStatic then m.answer step :: (m.take step).answers steps
    else (m.take step).answers steps

def unmeasured (m : Moment) : Moment := { m with service := m.service.unmeasured }

variable {m m' : Moment} {step : Step}

-- A static step goes by what can be seen without the windows.
theorem take_unmeasured (static : step.isStatic = true) :
    (m.unmeasured.take step).unmeasured = (m.take step).unmeasured ∧
      m.unmeasured.answer step = m.answer step := by
  cases step with
  | draw count words => cases static
  | act action =>
    cases action with
    | acquire excluded =>
      have same := Service.acquire_unmeasured m.service m.clock excluded
      refine ⟨congrArg (Moment.mk · m.clock m.specs) ?_, congrArg Answer.entry ?_⟩
      · show (m.service.unmeasured.acquire m.clock excluded).2.unmeasured = _
        rw [same, Service.unmeasured_unmeasured]
        rfl
      · show (m.service.unmeasured.acquire m.clock excluded).1 = _
        rw [same]
    | release profile entry isError micros adaptive =>
      cases adaptive with
      | true => cases static
      | false =>
        have same := Service.release_unmeasured m.service m.clock profile entry isError micros
        refine ⟨congrArg (Moment.mk · m.clock m.specs) ?_, congrArg Answer.suspended ?_⟩
        · show (m.service.unmeasured.release m.clock profile entry isError micros
            false).1.unmeasured = _
          rw [same, Service.unmeasured_unmeasured]
          rfl
        · show (m.service.unmeasured.release m.clock profile entry isError micros false).2 = _
          rw [same]
    | update profiles specs =>
      have same := Service.update_unmeasured m.service m.clock profiles specs
      show Moment.unmeasured (match m.service.unmeasured.update m.clock profiles specs with
          | .ok service => { m.unmeasured with service, specs }
          | .error _ => m.unmeasured) = Moment.unmeasured (match m.service.update m.clock profiles
            specs with
          | .ok service => { m with service, specs }
          | .error _ => m) ∧
        (match m.service.unmeasured.update m.clock profiles specs with
          | .ok _ => Answer.nothing
          | .error e => .failed e) = match m.service.update m.clock profiles specs with
          | .ok _ => Answer.nothing
          | .error e => .failed e
      cases one : m.service.unmeasured.update m.clock profiles specs with
      | error e =>
        cases other : m.service.update m.clock profiles specs with
        | error e' =>
          rw [one, other] at same
          cases same
          exact ⟨congrArg (Moment.mk · m.clock m.specs) m.service.unmeasured_unmeasured, rfl⟩
        | ok service =>
          rw [one, other] at same
          cases same
      | ok service' =>
        cases other : m.service.update m.clock profiles specs with
        | error e =>
          rw [one, other] at same
          cases same
        | ok service =>
          rw [one, other] at same
          have same : service'.unmeasured = service.unmeasured := Except.ok.inj same
          exact ⟨congrArg (Moment.mk · m.clock specs) same, rfl⟩
    | enable enabled =>
      exact ⟨congrArg (fun service : Service => Moment.mk { service with enabled } m.clock m.specs)
        m.service.unmeasured_unmeasured, rfl⟩
    | pass nanoseconds =>
      refine ⟨congrArg (Moment.mk · (m.clock + nanoseconds) m.specs) ?_, rfl⟩
      show (m.service.unmeasured.wake (m.clock + nanoseconds)).unmeasured = _
      rw [Service.wake_unmeasured, Service.unmeasured_unmeasured]
      rfl

-- Any other step leaves all that as it was.
theorem unmeasured_take (adaptive : step.isStatic = false) :
    (m.take step).unmeasured = m.unmeasured := by
  cases step with
  | draw count words => rfl
  | act action =>
    cases action with
    | release profile entry isError micros adaptively =>
      cases adaptively with
      | false => cases adaptive
      | true =>
        exact congrArg (Moment.mk · m.clock m.specs) (Service.unmeasured_release_adaptive ..)
    | acquire => cases adaptive
    | update => cases adaptive
    | enable => cases adaptive
    | pass => cases adaptive

theorem answers_of_static (static : step.isStatic = true) (m : Moment) (steps : List Step) :
    m.answers (step :: steps) = m.answer step :: (m.take step).answers steps := if_pos static

theorem answers_of_adaptive (adaptive : step.isStatic = false) (m : Moment) (steps : List Step) :
    m.answers (step :: steps) = (m.take step).answers steps := by
  rw [answers, adaptive, if_neg Bool.false_ne_true]

-- A run comes to what its static steps come to alone.
theorem takeAll_statics (same : m.unmeasured = m'.unmeasured) (steps : List Step) :
    m.answers steps = m'.answers (steps.filter Step.isStatic) ∧
      (m.takeAll steps).unmeasured = (m'.takeAll (steps.filter Step.isStatic)).unmeasured := by
  induction steps generalizing m m' with
  | nil => exact ⟨rfl, same⟩
  | cons step steps ih =>
    cases static : step.isStatic with
    | true =>
      obtain ⟨here, answer⟩ := take_unmeasured (m := m) static
      obtain ⟨there, answer'⟩ := take_unmeasured (m := m') static
      have next : (m.take step).unmeasured = (m'.take step).unmeasured := by
        rw [← here, same, there]
      obtain ⟨later, ends⟩ := ih next
      rw [List.filter_cons_of_pos static, answers_of_static static, answers_of_static static, later,
        ← answer, same, answer']
      exact ⟨rfl, ends⟩
    | false =>
      obtain ⟨later, ends⟩ := ih ((unmeasured_take static).trans same)
      rw [List.filter_cons_of_neg (ne_true_of_eq_false static), answers_of_adaptive static]
      exact ⟨later, ends⟩

-- No static step writes into a window; an update may add servers with windows of their own.
theorem measures_take (static : step.isStatic = true) :
    m.service.measures.Subperm (m.take step).service.measures := by
  cases step with
  | draw count words => cases static
  | act action =>
    cases action with
    | acquire excluded => exact (List.Perm.of_eq (Service.measures_acquire ..).symm).subperm
    | release profile entry isError micros adaptive =>
      cases adaptive with
      | true => cases static
      | false => exact (List.Perm.of_eq (Service.measures_release ..).symm).subperm
    | update profiles specs =>
      show List.Subperm _ (m.after (.update profiles specs)).service.measures
      unfold after
      dsimp only
      split
      · rename_i service updated
        exact Service.measures_update updated
      · exact List.Subperm.refl _
    | enable enabled => exact List.Subperm.refl _
    | pass nanoseconds => exact (List.Perm.of_eq (Service.measures_wake ..).symm).subperm

theorem measures_takeAll {steps : List Step} (static : ∀ step ∈ steps, step.isStatic = true) :
    m.service.measures.Subperm (m.takeAll steps).service.measures := by
  induction steps generalizing m with
  | nil => exact List.Subperm.refl _
  | cons step steps ih =>
    obtain ⟨first, rest⟩ := List.forall_mem_cons.mp static
    exact (measures_take first).trans (ih rest)

-- At any point up to which two runs have done the same static steps.
theorem adaptive_traffic_unseen (m : Moment) :
    (∀ steps steps' : List Step, steps.filter Step.isStatic = steps'.filter Step.isStatic →
      m.answers steps = m.answers steps' ∧
      (m.takeAll steps).unmeasured = (m.takeAll steps').unmeasured) ∧
    (∀ excluded, (m.take (.act (.acquire excluded))).service.measures = m.service.measures) ∧
    (∀ profile entry isError micros,
      (m.take (.act (.release profile entry isError micros false))).service.measures
        = m.service.measures) ∧
    ∀ steps : List Step, m.service.measures.Subperm
      (m.takeAll (steps.filter Step.isStatic)).service.measures := by
  refine ⟨fun steps steps' same => ?_, fun _ => Service.measures_acquire ..,
    fun _ _ _ _ => Service.measures_release .., fun steps => ?_⟩
  · obtain ⟨answers, ends⟩ := takeAll_statics (m := m) rfl steps
    obtain ⟨answers', ends'⟩ := takeAll_statics (m := m) rfl steps'
    rw [same] at answers ends
    exact ⟨answers.trans answers'.symm, ends.trans ends'.symm⟩
  · exact measures_takeAll fun step member => (List.mem_filter.mp member).2

-- An adaptive error on one server and an adaptive success on the other, between a static error that
-- takes this one out and its return.
theorem adaptive_outcomes_between_static_steps :
    let m := create "shop" none false {} 0
    let a : Entry := ⟨0, "a:80", ⟨"http", "a:80"⟩, none, none⟩
    let b : Entry := ⟨1, "b:80", ⟨"http", "b:80"⟩, none, none⟩
    let publish : Step := .act (.update .empty [{ address := "a:80" }, { address := "b:80" }])
    let acquire : Step := .act (.acquire [])
    let error : Step := .act (.release "default" a true 0 false)
    let plain := [publish, acquire, error, acquire, .act (.pass 10000000000), acquire]
    let mixed := [publish, .draw 2 default, acquire, .act (.release "default" b true 0 true), error,
      .act (.release "default" a false 7 true), acquire, .act (.pass 10000000000), acquire]
    plain.filter Step.isStatic = mixed.filter Step.isStatic ∧
      (m.takeAll plain).service.servers.map (·.errors.errors) = [0, 0] ∧
      (m.takeAll mixed).service.servers.map (·.errors.errors) = [0, 1] ∧
      m.answers plain = m.answers mixed ∧
      (m.takeAll plain).unmeasured = (m.takeAll mixed).unmeasured := by
  intro m a b publish acquire error plain mixed
  have windows : (m.takeAll plain).service.servers.map (·.errors.errors) = [0, 0] ∧
      (m.takeAll mixed).service.servers.map (·.errors.errors) = [0, 1] := by
    decide +kernel +revert
  exact ⟨rfl, windows.1, windows.2, (adaptive_traffic_unseen m).1 plain mixed rfl⟩

end Moment

end Balancing
