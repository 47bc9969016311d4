import Balancing.Proofs.Attempt.Reports
import Balancing.Proofs.Attempt.Rounds

namespace Balancing

structure Completion where
  target : Target
  result : TimedResponse
  isError : Bool

variable {σ τ ε : Type}

-- The same source, with a note of every completion.
def Source.traced (src : Source σ ε) : Source σ (ε ⊕ Completion) where
  service := src.service
  datacenter := src.datacenter
  budget := src.budget
  requestTimeout := src.requestTimeout
  connectTimeout := src.connectTimeout
  resolve request s :=
    let (found, s, resolveNotes) := src.resolve request s
    (found, s, resolveNotes.map .inl)
  started target s :=
    let (_, s, startNotes) := src.started target s
    ((), s, startNotes.map .inl)
  passed := src.passed
  completed target result isError s :=
    let (_, s, completeNotes) := src.completed target result isError s
    ((), s, .inr ⟨target, result, isError⟩ :: completeNotes.map .inl)
  isServerError := src.isServerError
  mayRetry response idempotent s :=
    let (allowed, s, checkNotes) := src.mayRetry response idempotent s
    (allowed, s, checkNotes.map .inl)
  decided target again s :=
    let (_, s, decideNotes) := src.decided target again s
    ((), s, decideNotes.map .inl)

inductive Deed where
  | called (call : Call)
  | completed (completion : Completion)
  | reported (report : Report)

def Deed.ofHappening? : Happening (ε ⊕ Completion) → Option Deed
  | .noted (.inl _) => none
  | .noted (.inr completion) => some (.completed completion)
  | .called call => some (.called call)
  | .reported report => some (.reported report)

def Happening.untraced? : Happening (ε ⊕ Completion) → Option (Happening ε)
  | .noted (.inl note) => some (.noted note)
  | .noted (.inr _) => none
  | .called call => some (.called call)
  | .reported report => some (.reported report)

def deedsOf (log : List (Happening (ε ⊕ Completion))) : List Deed :=
  log.filterMap Deed.ofHappening?

def untraced (log : List (Happening (ε ⊕ Completion))) : List (Happening ε) :=
  log.filterMap Happening.untraced?

namespace Attempt

@[simp] theorem notes_nil : notes ([] : List ε) = [] := rfl

@[simp] theorem deedsOf_append (l l' : List (Happening (ε ⊕ Completion))) :
    deedsOf (l ++ l') = deedsOf l ++ deedsOf l' := List.filterMap_append

@[simp] theorem untraced_append (l l' : List (Happening (ε ⊕ Completion))) :
    untraced (l ++ l') = untraced l ++ untraced l' := List.filterMap_append

@[simp] theorem deedsOf_cons (happening : Happening (ε ⊕ Completion))
    (rest : List (Happening (ε ⊕ Completion))) :
    deedsOf (happening :: rest) = (Deed.ofHappening? happening).toList ++ deedsOf rest := by
  unfold deedsOf
  rw [List.filterMap_cons]
  cases Deed.ofHappening? happening <;> rfl

@[simp] theorem untraced_cons (happening : Happening (ε ⊕ Completion))
    (rest : List (Happening (ε ⊕ Completion))) :
    untraced (happening :: rest) = happening.untraced?.toList ++ untraced rest := by
  unfold untraced
  rw [List.filterMap_cons]
  cases happening.untraced? <;> rfl

@[simp] theorem notes_cons (note : ε) (rest : List ε) :
    notes (note :: rest) = .noted note :: notes rest := rfl

@[simp] theorem deedsOf_notes (l : List ε) :
    deedsOf (notes (l.map .inl) : List (Happening (ε ⊕ Completion))) = [] := by
  induction l with
  | nil => rfl
  | cons note rest ih => exact ih

@[simp] theorem untraced_notes (l : List ε) :
    untraced (notes (l.map .inl) : List (Happening (ε ⊕ Completion))) = notes l := by
  induction l with
  | nil => rfl
  | cons note rest ih => exact congrArg (Happening.noted note :: ·) ih

variable (plan : Plan σ τ ε)

def tracedPlan : Plan σ τ (ε ⊕ Completion) where
  source := plan.source.traced
  send := plan.send
  context := plan.context
  request := plan.request
  idempotent := plan.idempotent
  factor := plan.factor

@[simp] theorem untraced_closing (progress : Progress) (response : Response) :
    untraced (closing (tracedPlan plan) progress response) = closing plan progress response := by
  unfold closing
  split <;> rfl

@[simp] theorem deedsOf_closing (progress : Progress) (response : Response) :
    deedsOf (closing (tracedPlan plan) progress response)
      = (reportsOf (closing plan progress response)).map .reported := by
  unfold closing
  split <;> rfl

-- What is done for one attempt, in this order.
def Made.deeds (made : Made σ τ ε) : List Deed :=
  [.called made.call,
    .completed ⟨made.target, made.result, plan.source.isServerError made.result.response⟩,
    .reported (made.report plan)]

theorem settle_traced (src : Source σ ε) (idempotent : Bool) (budget : Budget)
    (progress : Progress) (target : Target) (result : TimedResponse) (s : σ) :
    let settled := settle src idempotent budget progress target result s
    ∃ log, settle src.traced idempotent budget progress target result s
        = ⟨settled.again, settled.budget, settled.progress, log, settled.source⟩ ∧
      untraced log = settled.log ∧
      deedsOf log = [.completed ⟨target, result, src.isServerError result.response⟩,
        .reported (.attempt src.service src.datacenter target.address result.response.status
          result.elapsed.micros (!settled.again))] := by
  refine ⟨(settle src.traced idempotent budget progress target result s).log, ?_⟩
  simp only [settle, Source.traced]
  split
  · exact ⟨rfl, by simp [Happening.untraced?], by simp [Deed.ofHappening?]⟩
  · exact ⟨rfl, by simp [Happening.untraced?], by simp [Deed.ofHappening?]⟩

theorem make_traced (budget : Budget) (progress : Progress) (target : Target) (s : σ) (t : τ) :
    let made := make plan budget progress target s t
    ∃ log, make (tracedPlan plan) budget progress target s t =
        { again := made.again, budget := made.budget, progress := made.progress, log,
          source := made.source, target := made.target, call := made.call,
          result := made.result, transport := made.transport } ∧
      untraced log = made.log ∧ deedsOf log = made.deeds plan := by
  intro made
  let started := plan.source.started target s
  let reply := plan.send made.call t
  obtain ⟨log, settled, same, deeds⟩ := settle_traced plan.source plan.idempotent budget progress
    target reply.1.result (plan.source.passed reply.1.pause started.2.1)
  refine ⟨notes (started.2.2.map .inl) ++ [.called made.call] ++ log, ?_, ?_, ?_⟩
  · exact congrArg (fun left : Settled σ (ε ⊕ Completion) => ({ left with
      log := notes (started.2.2.map .inl) ++ [.called made.call] ++ left.log
      target, call := made.call, result := reply.1.result, transport := reply.2 } :
        Made σ τ (ε ⊕ Completion))) settled
  · simp only [untraced_append, untraced_notes, same]
    rfl
  · simp only [deedsOf_append, deedsOf_notes, deeds]
    rfl

theorem resolve_traced {s s' : σ} {found : Except Response Target} {resolveNotes : List ε}
    (resolved : plan.source.resolve plan.request s = (found, s', resolveNotes)) :
    (tracedPlan plan).source.resolve (tracedPlan plan).request s
      = (found, s', resolveNotes.map .inl) := by
  simp only [tracedPlan, Source.traced, resolved]

theorem run_traced (budget : Budget) (progress : Progress) (s : σ) (t : τ) :
    let h := history plan budget progress s t
    let r := run plan budget progress s t
    ∃ log, run (tracedPlan plan) budget progress s t = ⟨r.response, log, r.source, r.transport⟩ ∧
      untraced log = r.log ∧
      deedsOf log = h.made.flatMap (Made.deeds plan)
        ++ (reportsOf (closing plan (progress.past h) r.response)).map .reported := by
  fun_induction history plan budget progress s t with
  | case1 budget progress s t response s' resolveNotes found =>
    rw [run_of_refused found, run_of_refused (resolve_traced plan found)]
    refine ⟨_, rfl, by simp, ?_⟩
    rw [past_refused]
    simp
  | case2 budget progress s t target s' resolveNotes found made again later ih =>
    obtain ⟨log, same, erased, deeds⟩ := make_traced plan budget progress target s' t
    obtain ⟨rest, run, kept, done⟩ := ih
    have looked : 0 < later.looks := looks_pos ..
    have settled := progress_make plan budget progress target s' t
    have again' : (make (tracedPlan plan) budget progress target s' t).again := by
      rw [same]
      exact again
    rw [run_of_again found again, run_of_again (resolve_traced plan found) again', same]
    refine ⟨notes (resolveNotes.map .inl) ++ log ++ rest, ?_, ?_, ?_⟩
    · dsimp only
      rw [run]
    · simp only [untraced_append, untraced_notes, erased, kept]
      rfl
    · rw [← past_again progress made settled looked]
      simp only [deedsOf_append, deedsOf_notes, List.nil_append, deeds, done]
      rw [List.flatMap_cons, List.append_assoc]
  | case3 budget progress s t target s' resolveNotes found made final =>
    obtain ⟨log, same, erased, deeds⟩ := make_traced plan budget progress target s' t
    have settled := progress_make plan budget progress target s' t
    have final' : ¬(make (tracedPlan plan) budget progress target s' t).again := by
      rw [same]
      exact final
    rw [run_of_final found final, run_of_final (resolve_traced plan found) final', same]
    refine ⟨_, rfl, ?_, ?_⟩
    · simp [erased]
    · rw [past_final progress made settled]
      simp only [deedsOf_append, deedsOf_notes, List.nil_append, deedsOf_closing, deeds]
      rw [List.flatMap_cons, List.flatMap_nil, List.append_nil]

-- Which attempt gave the response of the run, if any of them did.
def History.answeredBy (h : History σ τ ε) : Option Nat :=
  if h.refusal.isSome then none else some (h.made.length - 1)

variable {plan}

theorem looks_of_again (budget : Budget) (progress : Progress) (s : σ) (t : τ) :
    let h := history plan budget progress s t
    ∀ k made, h.made[k]? = some made → made.again = true → k + 1 < h.looks := by
  fun_induction history plan budget progress s t with
  | case1 =>
    intro h k made kth
    cases kth
  | case2 budget progress s t target s' resolveNotes found first again later ih =>
    intro h k made kth more
    cases k with
    | zero => exact Nat.succ_lt_succ (looks_pos ..)
    | succ k => exact Nat.succ_lt_succ (ih k made kth more)
  | case3 budget progress s t target s' resolveNotes found last final =>
    intro h k made kth more
    cases k with
    | zero =>
      cases kth
      exact absurd more final
    | succ k => cases kth

theorem isFinal_iff {s : σ} {t : τ} {k : Nat} {made : Made σ τ ε}
    (kth : (course plan s t).made[k]? = some made) :
    (made.report plan).isFinal = true ↔ (course plan s t).answeredBy = some k := by
  have inside : k < (course plan s t).made.length := (List.getElem?_eq_some_iff.mp kth).1
  have looks : (course plan s t).looks
      = (course plan s t).made.length + (course plan s t).refusal.toList.length := looks_eq ..
  have more : made.again = true ↔ k + 1 < (course plan s t).looks :=
    ⟨looks_of_again _ _ _ _ k made kth, again_of_looks _ _ _ _ k made kth⟩
  have final : (made.report plan).isFinal = !made.again := rfl
  rw [final, Bool.not_eq_true', ← Bool.not_eq_true, more, looks]
  unfold History.answeredBy
  cases (course plan s t).refusal with
  | none =>
    simp only [Option.toList_none, List.length_nil, Option.isSome_none, Bool.false_eq_true,
      if_false, Option.some.injEq]
    omega
  | some response =>
    simp only [Option.toList_some, List.length_singleton, Option.isSome_some, if_true]
    constructor
    · omega
    · intro answered
      cases answered

-- A list whose last element alone passes.
theorem filter_eq_getLast? {α : Type} {p : α → Bool} {l : List α}
    (last : ∀ k a, l[k]? = some a → (p a = true ↔ k + 1 = l.length)) :
    l.filter p = l.getLast?.toList := by
  rcases List.eq_nil_or_concat' l with rfl | ⟨init, a, rfl⟩
  · rfl
  · have none : init.filter p = [] := by
      rw [List.filter_eq_nil_iff]
      intro b member passes
      obtain ⟨k, kth⟩ := List.mem_iff_getElem?.mp member
      have inside := (List.getElem?_eq_some_iff.mp kth).1
      have there : (init ++ [a])[k]? = some b := by
        rw [List.getElem?_append_left inside]
        exact kth
      have only := (last k b there).mp passes
      rw [List.length_append, List.length_singleton] at only
      omega
    have passes : p a = true := by
      refine (last init.length a ?_).mpr ?_
      · simp
      · simp
    rw [List.filter_append, none, List.filter_singleton, passes, List.getLast?_concat]
    rfl

-- The reports of the attempts, and what they say of the answer.
structure Told (plan : Plan σ τ ε) (s : σ) (t : τ) : Prop where
  calls : callsOf (start plan s t).log = (course plan s t).made.map (·.call)
  attempts : (reportsOf (start plan s t).log).filter (!Report.isRetried ·)
    = (course plan s t).made.map (Made.report plan)
  micros : ∀ made ∈ (course plan s t).made,
    made.result.elapsed.micros.toNat = min (made.result.elapsed.nanoseconds / 1000) (2 ^ 64 - 1)
  final : ∀ k made, (course plan s t).made[k]? = some made →
    ((made.report plan).isFinal = true ↔ (course plan s t).answeredBy = some k)
  answered : ∀ k, (course plan s t).answeredBy = some k →
    ∃ made, (course plan s t).made[k]? = some made ∧
      (start plan s t).response = made.result.response ∧
      k + 1 = (course plan s t).made.length ∧
      (reportsOf (start plan s t).log).filter Report.isFinal = [made.report plan]
  refused : (course plan s t).answeredBy = none →
    (course plan s t).refusal = some (start plan s t).response ∧
      (reportsOf (start plan s t).log).filter Report.isFinal = []
  order : ∃ log, start (tracedPlan plan) s t
      = ⟨(start plan s t).response, log, (start plan s t).source, (start plan s t).transport⟩ ∧
    untraced log = (start plan s t).log ∧
    deedsOf log = (course plan s t).made.flatMap (Made.deeds plan)
      ++ (retriesOf (start plan s t).log).map .reported

theorem reportsOf_start (s : σ) (t : τ) :
    reportsOf (start plan s t).log
      = (course plan s t).made.map (Made.report plan) ++ retriesOf (start plan s t).log := by
  rw [retriesOf_start]
  exact reportsOf_run plan plan.source.budget {} s t

theorem isFinal_of_isRetried {report : Report} (retried : report.isRetried = true) :
    report.isFinal = false := by
  cases report with
  | retried => rfl
  | attempt => cases retried
  | updateIgnored => cases retried

theorem finals_start (s : σ) (t : τ) :
    (reportsOf (start plan s t).log).filter Report.isFinal
      = ((course plan s t).made.map (Made.report plan)).filter Report.isFinal := by
  have none : (retriesOf (start plan s t).log).filter Report.isFinal = [] := by
    rw [List.filter_eq_nil_iff]
    intro report member
    rw [isFinal_of_isRetried (List.mem_filter.mp member).2]
    exact Bool.false_ne_true
  rw [reportsOf_start, List.filter_append, none, List.append_nil]

theorem attempts_start (s : σ) (t : τ) :
    (reportsOf (start plan s t).log).filter (!Report.isRetried ·)
      = (course plan s t).made.map (Made.report plan) := by
  have all : ((course plan s t).made.map (Made.report plan)).filter (!Report.isRetried ·)
      = (course plan s t).made.map (Made.report plan) := by
    simp [Made.report, Report.isRetried]
  have none : (retriesOf (start plan s t).log).filter (!Report.isRetried ·) = [] := by
    rw [List.filter_eq_nil_iff]
    intro report member
    simp [(List.mem_filter.mp member).2]
  rw [reportsOf_start, List.filter_append, all, none, List.append_nil]

theorem answer_of_answeredBy {s : σ} {t : τ} {k : Nat}
    (answered : (course plan s t).answeredBy = some k) :
    ∃ made, (course plan s t).made[k]? = some made ∧ (course plan s t).made.getLast? = some made ∧
      k + 1 = (course plan s t).made.length ∧
      (start plan s t).response = made.result.response := by
  have answer : (course plan s t).refusal.or
      ((course plan s t).made.getLast?.map fun made => made.result.response)
        = some (start plan s t).response := response_run ..
  unfold History.answeredBy at answered
  cases refusal : (course plan s t).refusal with
  | some response =>
    rw [refusal] at answered
    cases answered
  | none =>
    rw [refusal] at answered
    cases answered
    rw [refusal, Option.none_or] at answer
    obtain ⟨made, last, response⟩ := Option.map_eq_some_iff.mp answer
    have there := last
    rw [List.getLast?_eq_getElem?] at there
    have inside := (List.getElem?_eq_some_iff.mp there).1
    exact ⟨made, there, last, by omega, response.symm⟩

theorem refused_of_answeredBy {s : σ} {t : τ} (refused : (course plan s t).answeredBy = none) :
    (course plan s t).refusal = some (start plan s t).response := by
  have answer : (course plan s t).refusal.or
      ((course plan s t).made.getLast?.map fun made => made.result.response)
        = some (start plan s t).response := response_run ..
  unfold History.answeredBy at refused
  cases refusal : (course plan s t).refusal with
  | none =>
    rw [refusal] at refused
    cases refused
  | some response =>
    rw [refusal] at answer
    exact answer

theorem finals_of_answeredBy {s : σ} {t : τ} {k : Nat} {made : Made σ τ ε}
    (answered : (course plan s t).answeredBy = some k)
    (last : (course plan s t).made.getLast? = some made)
    (count : k + 1 = (course plan s t).made.length) :
    (reportsOf (start plan s t).log).filter Report.isFinal = [made.report plan] := by
  have only : ∀ j report, ((course plan s t).made.map (Made.report plan))[j]? = some report →
      (report.isFinal = true ↔ j + 1 = ((course plan s t).made.map (Made.report plan)).length) := by
    intro j report jth
    rw [List.getElem?_map] at jth
    obtain ⟨attempt, there, rfl⟩ := Option.map_eq_some_iff.mp jth
    rw [isFinal_iff there, answered, Option.some.injEq, List.length_map]
    omega
  rw [finals_start, filter_eq_getLast? only, List.getLast?_map, last]
  rfl

theorem finals_of_refused {s : σ} {t : τ} (refused : (course plan s t).answeredBy = none) :
    (reportsOf (start plan s t).log).filter Report.isFinal = [] := by
  rw [finals_start, List.filter_eq_nil_iff]
  intro report member final
  obtain ⟨made, listed, rfl⟩ := List.mem_map.mp member
  obtain ⟨k, kth⟩ := List.mem_iff_getElem?.mp listed
  rw [isFinal_iff kth, refused] at final
  cases final

theorem toNat_micros (d : Duration) :
    d.micros.toNat = min (d.nanoseconds / 1000) (2 ^ 64 - 1) := by
  have below : min (d.nanoseconds / 1000) 18446744073709551615 < 2 ^ 64 := by omega
  exact UInt64.toNat_ofNat_of_lt' below

theorem told_start (plan : Plan σ τ ε) (s : σ) (t : τ) : Told plan s t := by
  refine ⟨callsOf_start s t, attempts_start s t, fun made _ => toNat_micros _,
    fun k made kth => isFinal_iff kth, ?_, ?_, ?_⟩
  · intro k answered
    obtain ⟨made, kth, last, count, response⟩ := answer_of_answeredBy answered
    exact ⟨made, kth, response, count, finals_of_answeredBy answered last count⟩
  · intro refused
    exact ⟨refused_of_answeredBy refused, finals_of_refused refused⟩
  · rw [retriesOf_start]
    exact run_traced plan plan.source.budget {} s t

variable {ω : Type} {others : Others ω} {src : Source ServiceScene Suspension} {name : String}
  {adaptive : Bool}

-- Over a service a completion is one release of the target's entry.
theorem completed_among (serves : src.Serves name adaptive) {target : Target} {entry : Entry}
    (aimed : target.entry = some entry) (result : TimedResponse) (isError : Bool)
    (s : ServiceScene × ω) :
    let released := s.1.service.release s.1.clock name entry isError result.elapsed.micros adaptive
    let broken := s.1.broken.or
      (s.1.service.breakdown? entry isError result.elapsed.micros adaptive)
    (src.among others).completed target result isError s
      = ((), ({ s.1 with service := released.1, broken }, s.2), released.2) := by
  have completed := serves.completed
  simp only [Source.among, completed, ServiceScene.completed, aimed]
  rfl

-- The service after an attempt is the service as the answer found it, after that release.
theorem service_make_among {plan : Plan (ServiceScene × ω) τ Suspension}
    (shared : plan.source = src.among others) (serves : src.Serves name adaptive) (budget : Budget)
    (progress : Progress) {target : Target} {entry : Entry} (aimed : target.entry = some entry)
    (s : ServiceScene × ω) (t : τ) :
    let made := make plan budget progress target s t
    let isError := plan.source.isServerError made.result.response
    ∃ pause, let answered := plan.source.passed pause s
      made.source.1.service = (answered.1.service.release answered.1.clock name entry isError
        made.result.elapsed.micros adaptive).1 := by
  intro made isError
  have started : (plan.source.started target s).2.1 = s := by
    have kept := serves.started target s.1
    rw [shared]
    simp only [Source.among, kept]
  refine ⟨(plan.send made.call t).1.pause, ?_⟩
  intro answered
  have settled : made.source = (settle plan.source plan.idempotent budget progress target
      made.result answered).source := by
    show (settle plan.source plan.idempotent budget progress target made.result
      (plan.source.passed _ (plan.source.started target s).2.1)).source = _
    rw [started]
    rfl
  have completed := Session.service_settle serves plan.idempotent budget progress target
    made.result answered.1
  simp only [ServiceScene.completed, aimed] at completed
  have policy : isError = src.isServerError made.result.response := by
    simp only [isError, shared, Source.among]
  rw [settled, policy, shared, settle_among]
  exact completed

theorem aimed_of_resolve {tries : Nat} {request : Request} {scene scene' : ServiceScene}
    {target : Target} {notes : List Suspension}
    (resolved : ServiceScene.resolve adaptive tries request scene = (.ok target, scene', notes)) :
    ∃ entry, target = ServiceScene.aim request entry := by
  unfold ServiceScene.resolve at resolved
  split at resolved
  · cases resolved
  · dsimp only at resolved
    split at resolved
    · cases resolved
    · rename_i entry _
      cases resolved
      exact ⟨entry, rfl⟩

-- An attempt goes to the entry that its look has handed out, and gives it back once. What others
-- do, before the look or while the answer is awaited, is in the states around.
structure GivesBack (plan : Plan (ServiceScene × ω) τ Suspension) (name : String) (adaptive : Bool)
    (isError : Response → Bool) (before : ServiceScene × ω)
    (made : Made (ServiceScene × ω) τ Suspension) (entry : Entry) : Prop where
  target : made.target = ServiceScene.aim plan.request entry
  looked : (plan.source.resolve plan.request before).1 = .ok made.target
  -- the completion that the trace notes is one release
  completed : ∀ s : ServiceScene × ω,
    let released := s.1.service.release s.1.clock name entry (isError made.result.response)
      made.result.elapsed.micros adaptive
    let broken := s.1.broken.or (s.1.service.breakdown? entry (isError made.result.response)
      made.result.elapsed.micros adaptive)
    plan.source.completed made.target made.result (plan.source.isServerError made.result.response) s
      = ((), ({ s.1 with service := released.1, broken }, s.2), released.2)
  -- and nothing else of the attempt touches the service
  left : ∃ pause,
    let answered := plan.source.passed pause (plan.source.resolve plan.request before).2.1
    made.source.1.service = (answered.1.service.release answered.1.clock name entry
      (isError made.result.response) made.result.elapsed.micros adaptive).1

theorem givesBack_of_made {plan : Plan (ServiceScene × ω) τ Suspension}
    (shared : plan.source = src.among others) (serves : src.Serves name adaptive)
    (s : ServiceScene × ω) (t : τ) :
    let h := course plan s t
    ∀ k made, h.made[k]? = some made → ∃ entry,
      GivesBack plan name adaptive plan.source.isServerError (h.before s k) made entry := by
  intro h k made kth
  obtain ⟨budget, progress, target, looked, notes, t', resolved, rfl⟩ :=
    look_of_made _ _ _ _ k made kth
  obtain ⟨tries, looks⟩ := serves.resolve
  obtain ⟨entry, rfl⟩ : ∃ entry, target = ServiceScene.aim plan.request entry := by
    have aimed := congrArg Prod.fst resolved
    simp only [shared, Source.among, looks] at aimed
    exact aimed_of_resolve (Prod.ext aimed rfl)
  have aimed : (ServiceScene.aim plan.request entry).entry = some entry := rfl
  refine ⟨entry, rfl, congrArg Prod.fst resolved, fun s => ?_, ?_⟩
  · rw [shared]
    exact completed_among serves aimed _ _ s
  · obtain ⟨pause, released⟩ := service_make_among shared serves budget progress aimed looked t'
    refine ⟨pause, ?_⟩
    rw [resolved]
    exact released

end Attempt

end Balancing
