import Balancing.Proofs.Attempt.Coverage

namespace Balancing

-- What others do to a service between two steps of a request, and how late it is then.
abbrev Others (ω : Type) := ω → Service → Instant → (Service × Instant) × ω

variable {ω τ : Type}

def Others.act (others : Others ω) : ServiceScene × ω → ServiceScene × ω := fun (scene, w) =>
  let ((service, clock), w) := others w scene.service scene.clock
  ({ scene with service, clock }, w)

-- They keep the service in use.
def Others.Enabling (others : Others ω) : Prop :=
  ∀ w service clock, service.enabled = true → (others w service clock).1.1.enabled = true

-- The same source, with others at work before each look and before each answer is taken.
def Source.among (others : Others ω) (src : Source ServiceScene Suspension) :
    Source (ServiceScene × ω) Suspension where
  service := src.service
  datacenter := src.datacenter
  budget := src.budget
  requestTimeout := src.requestTimeout
  connectTimeout := src.connectTimeout
  resolve request := fun s =>
    let (scene, w) := others.act s
    let (found, scene, resolveNotes) := src.resolve request scene
    (found, (scene, w), resolveNotes)
  started target := fun (scene, w) =>
    let (_, scene, startNotes) := src.started target scene
    ((), (scene, w), startNotes)
  passed pause := fun (scene, w) => others.act (src.passed pause scene, w)
  completed target result isError := fun (scene, w) =>
    let (_, scene, completeNotes) := src.completed target result isError scene
    ((), (scene, w), completeNotes)
  isServerError := src.isServerError
  mayRetry response idempotent := fun (scene, w) =>
    let (allowed, scene, checkNotes) := src.mayRetry response idempotent scene
    (allowed, (scene, w), checkNotes)
  decided target again := fun (scene, w) =>
    let (_, scene, decideNotes) := src.decided target again scene
    ((), (scene, w), decideNotes)

theorem follows_among {src : Source ServiceScene Suspension} {profile : Profile}
    (follows : Attempt.Source.Follows src profile) (others : Others ω) :
    Attempt.Source.Follows (src.among others) profile := by
  refine ⟨follows.tries, follows.time, fun response idempotent s => ?_⟩
  have asked := follows.asks response idempotent s.1
  simp only [Source.among, asked]

def Others.idle : Others Unit := fun _ service clock => ((service, clock), ())

namespace Attempt

variable (plan : Plan ServiceScene τ Suspension)

def amongIdle : Plan (ServiceScene × Unit) τ Suspension :=
  { plan with source := plan.source.among .idle }

-- Others are not at work while an attempt is settled.
theorem settle_among (others : Others ω) (src : Source ServiceScene Suspension) (idempotent : Bool)
    (budget : Budget) (progress : Progress) (target : Target) (result : TimedResponse)
    (scene : ServiceScene) (w : ω) :
    let settled := settle src idempotent budget progress target result scene
    settle (src.among others) idempotent budget progress target result (scene, w)
      = ⟨settled.again, settled.budget, settled.progress, settled.log, (settled.source, w)⟩ := by
  simp only [settle]
  split <;> rfl

theorem make_among_idle (budget : Budget) (progress : Progress) (target : Target)
    (scene : ServiceScene) (t : τ) :
    let made := make plan budget progress target scene t
    make (amongIdle plan) budget progress target (scene, ()) t
      = { again := made.again, budget := made.budget, progress := made.progress, log := made.log,
          source := (made.source, ()), target := made.target, call := made.call,
          result := made.result, transport := made.transport } := by
  have settled (result : TimedResponse) (scene : ServiceScene) :=
    settle_among .idle plan.source plan.idempotent budget progress target result scene ()
  simp only [make, outbound, amongIdle, Source.among, Others.act, Others.idle] at settled ⊢
  simp only [settled]

theorem resolve_among_idle {scene scene' : ServiceScene} {found : Except Response Target}
    {notes : List Suspension}
    (resolved : plan.source.resolve plan.request scene = (found, scene', notes)) :
    (amongIdle plan).source.resolve plan.request (scene, ()) = (found, (scene', ()), notes) := by
  simp only [amongIdle, Source.among, Others.act, Others.idle, resolved]

-- Then a request runs as it runs alone.
theorem run_among_idle (budget : Budget) (progress : Progress) (scene : ServiceScene) (t : τ) :
    run (amongIdle plan) budget progress (scene, ()) t
      = let alone := run plan budget progress scene t
        ⟨alone.response, alone.log, (alone.source, ()), alone.transport⟩ := by
  fun_induction history plan budget progress scene t with
  | case1 budget progress scene t response scene' notes found =>
    rw [run_of_refused found, run_of_refused (resolve_among_idle plan found)]
    rfl
  | case2 budget progress scene t target scene' notes found made again later ih =>
    have same := make_among_idle plan budget progress target scene' t
    have again' : (make (amongIdle plan) budget progress target (scene', ()) t).again := by
      rw [same]
      exact again
    rw [run_of_again found again, run_of_again (resolve_among_idle plan found) again', same]
    dsimp only
    rw [ih]
  | case3 budget progress scene t target scene' notes found made final =>
    have same := make_among_idle plan budget progress target scene' t
    have final' : ¬(make (amongIdle plan) budget progress target (scene', ()) t).again := by
      rw [same]
      exact final
    rw [run_of_final found final, run_of_final (resolve_among_idle plan found) final', same]
    rfl

end Attempt

namespace ServiceScene

theorem withOrder_of_drawn (scene : ServiceScene) (fresh : scene.order = none) {tries : Nat}
    {drawn : List Entry × Words}
    (went : scene.service.acquireAdaptive Words.below tries scene.words = .ok drawn) :
    scene.withOrder tries = (drawn.1, { scene with words := drawn.2 }) := by
  simp only [withOrder, fresh, went]

-- A look takes the first entry of the order, drawn now or earlier.
theorem resolve_adaptive {scene : ServiceScene} (enabled : scene.service.enabled = true)
    {tries : Nat} {entries : List Entry} {words : Words}
    (ahead : scene.withOrder tries = (entries, { scene with words })) (request : Request) :
    resolve true tries request scene = (match entries.head? with
      | none => .error .noAvailableServers
      | some entry => .ok (aim request entry),
        { scene with words, order := some entries.tail }, []) := by
  simp only [resolve, enabled, Bool.not_true, Bool.false_eq_true, if_false, if_true, nextAdaptive,
    ahead]
  cases entries.head? <;> rfl

end ServiceScene

namespace Attempt

-- A state in which the order has been drawn and this much of it is left.
structure Underway (left : List Entry) (words : Words) (s : ServiceScene × ω) : Prop where
  enabled : s.1.service.enabled = true
  words : s.1.words = words
  order : s.1.order = some left
  unbroken : s.1.broken = none

-- A state in which a look finds this much of the order, drawn now or earlier.
structure Ready (others : Others ω) (tries : Nat) (left : List Entry) (words : Words)
    (s : ServiceScene × ω) : Prop where
  enabled : (others.act s).1.service.enabled = true
  ahead : (others.act s).1.withOrder tries = (left, { (others.act s).1 with words })
  unbroken : s.1.broken = none

variable {others : Others ω} {left entries : List Entry} {words : Words} {tries : Nat}
  {s : ServiceScene × ω}

theorem Underway.congr (under : Underway left words s) {s' : ServiceScene × ω}
    (setting : s'.1.service.setting = s.1.service.setting) (sameWords : s'.1.words = s.1.words)
    (sameOrder : s'.1.order = s.1.order) (sameBroken : s'.1.broken = s.1.broken) :
    Underway left words s' :=
  ⟨(congrArg Prod.fst setting).trans under.enabled, sameWords.trans under.words,
    sameOrder.trans under.order, sameBroken.trans under.unbroken⟩

theorem underway_act (enabling : others.Enabling) (under : Underway left words s) :
    Underway left words (others.act s) :=
  ⟨enabling _ _ _ under.enabled, under.words, under.order, under.unbroken⟩

theorem ready_of_underway (enabling : others.Enabling) (under : Underway left words s) :
    Ready others tries left words s := by
  have later := underway_act enabling under
  refine ⟨later.enabled, ?_, under.unbroken⟩
  unfold ServiceScene.withOrder
  rw [later.order, ← later.words]

-- What others keep, and what waking, a release and a new tried place keep, is kept by an attempt.
theorem holds_make_among {plan : Plan (ServiceScene × ω) τ Suspension}
    {src : Source ServiceScene Suspension} {name : String} {adaptive : Bool}
    (shared : plan.source = src.among others) (serves : src.Serves name adaptive)
    {holds : ServiceScene × ω → Prop} (budget : Budget) (progress : Progress) (target : Target)
    (t : τ) (acted : ∀ s, holds s → holds (others.act s))
    (woken : ∀ pause s, holds s → holds (s.1.passed pause, s.2))
    (released : ∀ entry result s', result = (make plan budget progress target s t).result →
      holds s' → holds ((s'.1.released name entry (src.isServerError result.response)
        result.elapsed.micros adaptive).1, s'.2))
    (decided : ∀ tried s, holds s → holds ({ s.1 with tried }, s.2)) (before : holds s) :
    holds (make plan budget progress target s t).source := by
  refine holds_make budget progress target t ?_ ?_ ?_ ?_ ?_ before
  · intro target s before
    have started := serves.started target s.1
    rw [shared]
    simp only [Source.among, started]
    exact before
  · intro pause s before
    have passed := serves.passed
    rw [shared]
    simp only [Source.among, passed]
    exact acted _ (woken pause s before)
  · intro result s' same before
    have told := fun entry => released entry result s' same before
    have completed := serves.completed
    rw [shared]
    simp only [Source.among, completed, ServiceScene.completed]
    cases target.entry with
    | none => exact before
    | some entry => exact told entry
  · intro response idempotent s before
    obtain ⟨allowed, kept⟩ := serves.mayRetry response idempotent s.1
    rw [shared]
    simp only [Source.among, kept]
    exact before
  · intro target again s before
    have noted := serves.decided
    rw [shared]
    simp only [Source.among, noted, ServiceScene.decided]
    split
    · exact decided _ s before
    · exact before

section

-- An adaptive request over a service that others use too.
variable {plan : Plan (ServiceScene × ω) τ Suspension} {src : Source ServiceScene Suspension}
  {name : String} (shared : plan.source = src.among others)

include shared

theorem look_of_ready (resolve : src.resolve = ServiceScene.resolve true tries)
    (ready : Ready others tries left words s) :
    let looked := plan.source.resolve plan.request s
    looked.1 = (match left.head? with
      | none => .error .noAvailableServers
      | some entry => .ok (ServiceScene.aim plan.request entry)) ∧
    Underway left.tail words looked.2.1 := by
  have found := ServiceScene.resolve_adaptive ready.enabled ready.ahead plan.request
  rw [shared]
  simp only [Source.among, resolve, found, true_and]
  exact ⟨ready.enabled, rfl, rfl, ready.unbroken⟩

-- The request itself does no more to its order than to look at it, and errors are not timed.
theorem underway_make (serves : src.Serves name true) (enabling : others.Enabling)
    {budget : Budget} {progress : Progress} {target : Target} {t : τ}
    (failed : src.isServerError (make plan budget progress target s t).result.response = true)
    (under : Underway left words s) :
    Underway left words (make plan budget progress target s t).source := by
  refine holds_make_among shared serves budget progress target t ?_ ?_ ?_ ?_ under
  · intro s under
    exact underway_act enabling under
  · intro pause s under
    exact under.congr (Service.setting_wake ..) rfl rfl rfl
  · intro entry result s same under
    rw [same, failed]
    exact under.congr (Service.setting_release ..) rfl rfl
      (ServiceScene.broken_released_of_error ..)
  · intro tried s under
    exact under.congr rfl rfl rfl rfl

-- An attempt takes the next entry of the order and leaves the rest.
theorem attempt_of_ready (serves : src.Serves name true)
    (resolve : src.resolve = ServiceScene.resolve true tries) (enabling : others.Enabling)
    {t : τ} {k : Nat} {made : Made (ServiceScene × ω) τ Suspension}
    (kth : (course plan s t).made[k]? = some made)
    (failed : src.isServerError made.result.response = true)
    (ready : Ready others tries (entries.drop k) words ((course plan s t).before s k)) :
    ∃ entry, entries[k]? = some entry ∧ made.GoesTo plan.request entry ∧
      Underway (entries.drop (k + 1)) words made.source := by
  obtain ⟨budget, progress, target, s', notes, t', resolved, rfl⟩ := look_of_made _ _ _ _ k made kth
  obtain ⟨aimed, under⟩ := look_of_ready shared resolve ready
  rw [resolved, List.tail_drop] at under
  rw [resolved, List.head?_drop] at aimed
  cases there : entries[k]? with
  | none =>
    rw [there] at aimed
    cases aimed
  | some entry =>
    rw [there] at aimed
    cases aimed
    exact ⟨entry, rfl, ⟨rfl, rfl⟩, underway_make shared serves enabling failed under⟩

variable (serves : src.Serves name true)
  (resolve : src.resolve = ServiceScene.resolve true tries) (enabling : others.Enabling) {t : τ}
  (failed : ∀ made ∈ (course plan s t).made, src.isServerError made.result.response = true)

include serves resolve enabling failed

theorem ready_of_first (first : Ready others tries entries words s) :
    let h := course plan s t
    ∀ k, k < h.looks → Ready others tries (entries.drop k) words (h.before s k) := by
  intro h
  refine before_induction (fun k s => Ready others tries (entries.drop k) words s) first ?_
  intro h k made kth again ready
  obtain ⟨_, _, _, under⟩ := attempt_of_ready shared serves resolve enabling kth
    (failed made (List.mem_of_getElem? kth)) ready
  exact ready_of_underway enabling under

theorem goesTo_of_ready (first : Ready others tries entries words s) :
    let h := course plan s t
    ∀ k made, h.made[k]? = some made →
      ∃ entry, entries[k]? = some entry ∧ made.GoesTo plan.request entry ∧
        Underway (entries.drop (k + 1)) words made.source := by
  intro h k made kth
  have ready := ready_of_first shared serves resolve enabling failed first k (lt_looks_of_made kth)
  exact attempt_of_ready shared serves resolve enabling kth (failed made (List.mem_of_getElem? kth))
    ready

theorem entries_of_made (first : Ready others tries entries words s) :
    (course plan s t).made.map (·.target.entry)
      = (entries.take (course plan s t).made.length).map some := by
  refine List.ext_getElem? fun k => ?_
  rw [List.getElem?_map, List.getElem?_map, List.getElem?_take]
  cases kth : (course plan s t).made[k]? with
  | none =>
    rw [if_neg (Nat.not_lt.mpr (List.getElem?_eq_none_iff.mp kth))]
    rfl
  | some made =>
    obtain ⟨entry, there, goes, _⟩ := goesTo_of_ready shared serves resolve enabling failed first k
      made kth
    rw [if_pos (List.getElem?_eq_some_iff.mp kth).1, there, Option.map_some, goes.aimed]
    rfl

-- Nothing breaks off, whether the last look finds an entry or none.
theorem unbroken_of_ready (first : Ready others tries entries words s) :
    (start plan s t).source.1.broken = none := by
  refine holds_run (fun s : ServiceScene × ω => s.1.broken = none) (fun response refused => ?_)
    fun k made kth => ?_
  · have ready := ready_of_first shared serves resolve enabling failed first _
      (lt_looks_of_refusal refused)
    exact (look_of_ready shared resolve ready).2.unbroken
  · obtain ⟨_, _, _, under⟩ := goesTo_of_ready shared serves resolve enabling failed first k made
      kth
    exact under.unbroken

-- An order drawn for all tries is used up by them, so that only an empty one is ever missed.
theorem ends_of_ready {profile : Profile} {force : Bool} (follows : Source.Follows src profile)
    (idempotent : plan.idempotent = plan.request.isIdempotent force)
    (first : Ready others tries entries words s) (retriable : Retriable profile force plan s t)
    (drawn : entries = [] ∨ entries.length = max profile.maxTries.toNat 1) :
    (course plan s t).made.length = entries.length ∧
    (entries = [] → (start plan s t).response = .noAvailableServers) ∧
    (entries ≠ [] → ∃ made, (course plan s t).made.getLast? = some made ∧
      (start plan s t).response = made.result.response) := by
  let h := course plan s t
  have within : h.made.length ≤ entries.length := by
    have lengths := congrArg List.length
      (entries_of_made shared serves resolve enabling failed first)
    rw [List.length_map, List.length_map, List.length_take] at lengths
    exact min_eq_left_iff.mp lengths.symm
  have follows : Source.Follows plan.source profile := by
    rw [shared]
    exact follows_among follows others
  have ends : (h.made.length = max profile.maxTries.toNat 1 ∧ h.refusal = none ∧
      ∃ made, h.made.getLast? = some made ∧
        (start plan s t).response = made.result.response) ∨
      (h.made.length < max profile.maxTries.toNat 1 ∧
        h.refusal = some (start plan s t).response) :=
    ends_of_retriable (looks_again_of_follows follows idempotent s t) retriable
  rcases ends with ⟨full, _, last⟩ | ⟨short, refused⟩
  · have some : entries ≠ [] := by
      rintro rfl
      rw [List.length_nil] at within
      omega
    exact ⟨full.trans (drawn.resolve_left some).symm, fun empty => absurd empty some,
      fun _ => last⟩
  · have ready := ready_of_first shared serves resolve enabling failed first h.made.length
      (lt_looks_of_refusal refused)
    obtain ⟨s', notes, resolved⟩ := look_of_refusal _ _ _ _ _ refused
    have aimed := (look_of_ready shared resolve ready).1
    rw [resolved, List.head?_drop] at aimed
    cases there : entries[h.made.length]? with
    | some entry =>
      rw [there] at aimed
      cases aimed
    | none =>
      rw [there] at aimed
      have beyond := List.getElem?_eq_none_iff.mp there
      have empty : entries = [] := drawn.resolve_right (by omega)
      exact ⟨Nat.le_antisymm within beyond, fun _ => Except.error.inj aimed,
        fun some => absurd empty some⟩

end

section

variable {σ ε : Type} {made : List (Made σ τ ε)} {entries : List Entry}
  (same : made.map (·.target.entry) = entries.map some)

include same

theorem getElem?_entry (k : Nat) : made[k]?.map (·.target.entry) = entries[k]?.map some := by
  rw [← List.getElem?_map, same, List.getElem?_map]

theorem place?_take (n : Nat) :
    (made.take n).map Made.place? = ((entries.take n).map (·.index)).map some := by
  have taken := congrArg
    (fun l => (l.take n).map (Option.map fun entry : Entry => entry.index)) same
  simp only [← List.map_take, List.map_map] at taken ⊢
  exact taken

end

-- What one request has made of an order drawn from a service.
structure GoesRound (drawn : Service) (tries : Nat) (plan : Plan (ServiceScene × ω) τ Suspension)
    (s : ServiceScene × ω) (t : τ) : Prop where
  sound : (start plan s t).source.1.broken = none
  calls : callsOf (start plan s t).log = (course plan s t).made.map (·.call)
  attempts : (course plan s t).made.length = if drawn.eligible = [] then 0 else tries
  eligible : ∀ made ∈ (course plan s t).made, ∃ i server, drawn.MayServe i server ∧
    made.GoesTo plan.request (.of i server)
  apart : (((course plan s t).made.take drawn.eligible.length).map Made.place?).Nodup
  rounds : ∀ j, j < (course plan s t).made.length →
    (course plan s t).made[j]?.map (·.target.entry)
      = (course plan s t).made[j % drawn.eligible.length]?.map (·.target.entry)
  answered : drawn.eligible ≠ [] → ∃ made, (course plan s t).made.getLast? = some made ∧
    (start plan s t).response = made.result.response
  nobody : drawn.eligible = [] → (start plan s t).response = .noAvailableServers

end Attempt

end Balancing
