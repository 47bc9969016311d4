import Balancing.Proofs.Attempt.Course
import Balancing.Proofs.Service.Moment

namespace Balancing

namespace Report

def isRetried : Report → Bool
  | retried .. => true
  | _ => false

-- Whether it says of an attempt that its response is the answer to the request.
def isFinal : Report → Bool
  | attempt _ _ _ _ _ final => final
  | _ => false

end Report

namespace Attempt

variable {σ τ ε : Type}

def Made.report (plan : Plan σ τ ε) (made : Made σ τ ε) : Report :=
  .attempt plan.source.service plan.source.datacenter made.target.address
    made.result.response.status made.result.elapsed.micros (!made.again)

-- Where a request stands after these attempts, if it stood at `progress` before them.
def Progress.past (progress : Progress) (h : History σ τ ε) : Progress where
  retries := progress.retries + (h.looks - 1)
  firstStatus := progress.firstStatus.or (h.made.head?.map (·.result.response.status))
  lastAddress := (h.made.getLast?.map (·.target.address)).or progress.lastAddress

variable (plan : Plan σ τ ε)

@[simp] theorem reportsOf_append (l l' : List (Happening ε)) :
    reportsOf (l ++ l') = reportsOf l ++ reportsOf l' := List.filterMap_append

@[simp] theorem reportsOf_notes (l : List ε) : reportsOf (notes l) = [] := by
  induction l with
  | nil => rfl
  | cons note rest ih => exact ih

@[simp] theorem reportsOf_make (budget : Budget) (progress : Progress) (target : Target) (s : σ)
    (t : τ) :
    let made := make plan budget progress target s t
    reportsOf made.log = [made.report plan] := by
  intro made
  simp only [made, make, settle, reportsOf_append, reportsOf_notes, List.nil_append,
    List.append_nil]
  rfl

theorem progress_make (budget : Budget) (progress : Progress) (target : Target) (s : σ) (t : τ) :
    let made := make plan budget progress target s t
    made.progress = ⟨progress.retries,
      some (progress.firstStatus.getD made.result.response.status), some made.target.address⟩ :=
  rfl

theorem past_refused (progress : Progress) (response : Response) :
    progress.past (⟨1, [], some response⟩ : History σ τ ε) = progress := by
  simp [Progress.past]

-- An attempt settles the progress, the look after it counts as a repetition, and the rest goes on
-- from there.
theorem past_again (progress : Progress) (made : Made σ τ ε) {later : History σ τ ε}
    (settled : made.progress = ⟨progress.retries,
      some (progress.firstStatus.getD made.result.response.status), some made.target.address⟩)
    (looked : 0 < later.looks) :
    Progress.past { made.progress with retries := made.progress.retries + 1 } later
      = progress.past ⟨later.looks + 1, made :: later.made, later.refusal⟩ := by
  have count : progress.retries + 1 + (later.looks - 1)
      = progress.retries + (later.looks + 1 - 1) := by
    omega
  have last : (later.made.getLast?.map (·.target.address)).or (some made.target.address)
      = ((made :: later.made).getLast?.map (·.target.address)).or progress.lastAddress := by
    rw [List.getLast?_cons]
    cases later.made.getLast? <;> rfl
  simp only [Progress.past, settled, List.head?_cons, Option.map_some, count, last,
    Option.or_some, Option.some_or]

theorem past_final (progress : Progress) (made : Made σ τ ε)
    (settled : made.progress = ⟨progress.retries,
      some (progress.firstStatus.getD made.result.response.status), some made.target.address⟩) :
    progress.past ⟨1, [made], none⟩ = made.progress := by
  rw [settled, ← Option.or_some]
  rfl

theorem reportsOf_run (budget : Budget) (progress : Progress) (s : σ) (t : τ) :
    reportsOf (run plan budget progress s t).log
      = (history plan budget progress s t).made.map (Made.report plan)
        ++ reportsOf (closing plan (progress.past (history plan budget progress s t))
            (run plan budget progress s t).response) := by
  fun_induction history plan budget progress s t with
  | case1 budget progress s t response s' resolveNotes found =>
    rw [run_of_refused found, past_refused]
    simp
  | case2 budget progress s t target s' resolveNotes found made again later ih =>
    have told : reportsOf made.log = [made.report plan] := reportsOf_make plan ..
    have looked : 0 < later.looks := looks_pos ..
    have settled := progress_make plan budget progress target s' t
    rw [run_of_again found again, ← past_again progress made settled looked]
    simp only [reportsOf_append, reportsOf_notes, List.nil_append, List.map_cons]
    rw [ih, told]
    rfl
  | case3 budget progress s t target s' resolveNotes found made final =>
    have told : reportsOf made.log = [made.report plan] := reportsOf_make plan ..
    have settled := progress_make plan budget progress target s' t
    rw [run_of_final found final, past_final progress made settled]
    simp only [reportsOf_append, reportsOf_notes, List.nil_append]
    rw [told]
    rfl

def retriesOf (log : List (Happening ε)) : List Report := (reportsOf log).filter Report.isRetried

def repetition (first last : Made σ τ ε) (response : Response) (count : Nat) : Report :=
  .retried plan.source.service plan.source.datacenter last.target.address response.status
    first.result.response.status count

variable {plan}

-- Only the end of a run tells of repetitions.
theorem retriesOf_start (s : σ) (t : τ) :
    retriesOf (start plan s t).log = reportsOf
      (closing plan (Progress.past {} (course plan s t)) (start plan s t).response) := by
  have told : reportsOf (start plan s t).log = _ := reportsOf_run plan plan.source.budget {} s t
  have attempts : ((course plan s t).made.map (Made.report plan)).filter Report.isRetried = [] := by
    simp [Made.report, Report.isRetried]
  unfold retriesOf
  rw [told, List.filter_append, attempts, List.nil_append]
  unfold closing
  split <;> rfl

theorem retriesOf_of_made {s : σ} {t : τ} {first last : Made σ τ ε}
    (head : (course plan s t).made.head? = some first)
    (tail : (course plan s t).made.getLast? = some last) :
    retriesOf (start plan s t).log = if (course plan s t).looks - 1 = 0 then []
      else [repetition plan first last (start plan s t).response
        ((course plan s t).looks - 1)] := by
  rw [retriesOf_start]
  simp only [Progress.past, closing, head, tail, Nat.zero_add]
  split <;> rfl

theorem retriesOf_of_nil {s : σ} {t : τ} (nothing : (course plan s t).made = []) :
    retriesOf (start plan s t).log = [] := by
  have looks : (course plan s t).looks
      = (course plan s t).made.length + (course plan s t).refusal.toList.length := looks_eq ..
  have once : (course plan s t).looks - 1 = 0 := by
    rw [looks, nothing]
    cases (course plan s t).refusal <;> rfl
  rw [retriesOf_start]
  simp only [Progress.past, closing, once, Nat.add_zero, if_true]
  rfl

-- A request that was sent more than once is told once, with its calls after the first; any other
-- request is not told.
structure RetriesAsCalled (plan : Plan σ τ ε) (s : σ) (t : τ) : Prop where
  silent : (callsOf (start plan s t).log).length ≤ 1 → retriesOf (start plan s t).log = []
  told : 1 < (callsOf (start plan s t).log).length →
    ∃ first last, (course plan s t).made.head? = some first ∧
      (course plan s t).made.getLast? = some last ∧
      retriesOf (start plan s t).log = [repetition plan first last (start plan s t).response
        ((callsOf (start plan s t).log).length - 1)]

theorem callsOf_start (s : σ) (t : τ) :
    callsOf (start plan s t).log = (course plan s t).made.map (·.call) := callsOf_run ..

theorem length_callsOf_start (s : σ) (t : τ) :
    (callsOf (start plan s t).log).length = (course plan s t).made.length := by
  rw [callsOf_start, List.length_map]

theorem retriesAsCalled_of_nil {s : σ} {t : τ} (nothing : (course plan s t).made = []) :
    RetriesAsCalled plan s t := by
  refine ⟨fun _ => retriesOf_of_nil nothing, fun more => ?_⟩
  rw [length_callsOf_start, nothing] at more
  cases more

section

variable {s : σ} {t : τ} {first last : Made σ τ ε}
  (head : (course plan s t).made.head? = some first)
  (tail : (course plan s t).made.getLast? = some last)

include head tail

theorem retriesAsCalled_of_answered (answered : (course plan s t).refusal = none) :
    RetriesAsCalled plan s t := by
  have looks : (course plan s t).looks
      = (course plan s t).made.length + (course plan s t).refusal.toList.length := looks_eq ..
  have told := retriesOf_of_made head tail
  rw [looks, answered, Option.toList_none, List.length_nil, Nat.add_zero,
    ← length_callsOf_start] at told
  refine ⟨fun few => ?_, fun more => ⟨first, last, head, tail, ?_⟩⟩
  · rw [told, if_pos (Nat.sub_eq_zero_of_le few)]
  · rw [told, if_neg (Nat.sub_ne_zero_of_lt more)]

-- The look that was refused counts as a repetition.
theorem retriesOf_of_refused (refused : (course plan s t).refusal.isSome) :
    retriesOf (start plan s t).log = [repetition plan first last (start plan s t).response
      (callsOf (start plan s t).log).length] := by
  have looks : (course plan s t).looks
      = (course plan s t).made.length + (course plan s t).refusal.toList.length := looks_eq ..
  have made : (course plan s t).made ≠ [] := by
    intro nothing
    rw [nothing] at head
    cases head
  obtain ⟨response, found⟩ := Option.isSome_iff_exists.mp refused
  have told := retriesOf_of_made head tail
  rw [looks, found, Option.toList_some, List.length_singleton, Nat.add_sub_cancel,
    if_neg (mt List.length_eq_zero_iff.mp made), ← length_callsOf_start] at told
  exact told

theorem not_retriesAsCalled_of_refused (refused : (course plan s t).refusal.isSome) :
    ¬RetriesAsCalled plan s t := by
  intro as
  have one := retriesOf_of_refused head tail refused
  rcases Nat.lt_or_ge 1 (callsOf (start plan s t).log).length with more | few
  · obtain ⟨_, _, _, _, fewer⟩ := as.told more
    rw [one] at fewer
    simp only [repetition, List.cons.injEq, Report.retried.injEq] at fewer
    omega
  · rw [as.silent few] at one
    cases one

end

-- That holds of a run unless its last look, after one attempt or more, was refused. Then the number
-- told is that of all calls.
structure RetriesCounted (plan : Plan σ τ ε) (s : σ) (t : τ) : Prop where
  calls : callsOf (start plan s t).log = (course plan s t).made.map (·.call)
  exact : RetriesAsCalled plan s t
    ↔ (course plan s t).refusal = none ∨ (course plan s t).made = []
  refused : ∀ first last, (course plan s t).made.head? = some first →
    (course plan s t).made.getLast? = some last → (course plan s t).refusal.isSome →
      retriesOf (start plan s t).log = [repetition plan first last (start plan s t).response
        (callsOf (start plan s t).log).length]

theorem retriesCounted (plan : Plan σ τ ε) (s : σ) (t : τ) : RetriesCounted plan s t := by
  refine ⟨callsOf_start s t, ?_, fun _ _ head tail => retriesOf_of_refused head tail⟩
  cases made : (course plan s t).made with
  | nil => exact iff_of_true (retriesAsCalled_of_nil made) (.inr rfl)
  | cons first rest =>
    have head : (course plan s t).made.head? = some first := by
      rw [made]
      rfl
    have tail : (course plan s t).made.getLast? = some (rest.getLast?.getD first) := by
      rw [made, List.getLast?_cons]
    cases refusal : (course plan s t).refusal with
    | none => exact iff_of_true (retriesAsCalled_of_answered head tail refusal) (.inl rfl)
    | some response =>
      have refused := not_retriesAsCalled_of_refused head tail (Option.isSome_of_eq_some refusal)
      exact iff_of_false refused (by simp)

-- The host that a request names is always there to be tried again.
theorem refusal_external {profile : Profile} {plan : Plan Instant τ Suspension}
    (external : Source.external? plan.request profile = some plan.source) (clock : Instant)
    (t : τ) : (course plan clock t).refusal = none := by
  obtain ⟨total, _, made⟩ := Option.map_eq_some_iff.mp external
  cases refusal : (course plan clock t).refusal with
  | none => rfl
  | some response =>
    obtain ⟨clock', notes, resolved⟩ := look_of_refusal _ _ _ _ _ refusal
    rw [← made] at resolved
    cases resolved

theorem repetitions_told (plan : Plan σ τ ε) (s : σ) (t : τ) :
    RetriesCounted plan s t ∧
    ∀ (profile : Profile) (external : Plan Instant τ Suspension) (clock : Instant),
      Source.external? external.request profile = some external.source →
        RetriesAsCalled external clock t := by
  refine ⟨retriesCounted plan s t, fun profile external clock made => ?_⟩
  exact (retriesCounted external clock t).exact.mpr (.inl (refusal_external made clock t))

theorem second_call_told_as_one_repetition :
    let get : Request := { method := "GET", uri := ⟨some "http", some "host", some .root⟩ }
    let script : List Reply :=
      [⟨⟨{ status := 503 }, .zero⟩, 0⟩, ⟨⟨{ status := 200 }, .zero⟩, 0⟩]
    let send : Transport (List Reply) := fun _ rest => (rest.headD default, rest.tail)
    ∃ src, Source.external? get .standard = some src ∧
      let plan : Plan Instant (List Reply) Suspension :=
        ⟨src, send, .external get, get, get.isIdempotent false, .one⟩
      RetriesAsCalled plan 0 script ∧
      reportsOf (start plan 0 script).log = [.attempt "host" none "host" 503 0 false,
        .attempt "host" none "host" 200 0 true, .retried "host" none "host" 200 503 1] := by
  intro get script send
  have fits : (Source.external? get .standard).isSome := by decide +kernel
  let plan : Plan Instant (List Reply) Suspension :=
    ⟨(Source.external? get .standard).get fits, send, .external get, get, get.isIdempotent false,
      .one⟩
  refine ⟨_, (Option.some_get fits).symm, ?_, ?_⟩
  · exact (repetitions_told plan 0 script).2 .standard plan 0 (Option.some_get fits).symm
  · decide +kernel +revert

-- The only server has answered, and a second one is looked for in vain.
theorem one_call_told_as_one_repetition :
    let m := (Moment.create "shop" none false {} 0).run [.update .empty [{ address := "a:80" }]]
    let get : Request := { method := "GET", uri := ⟨none, some "shop", some .root⟩ }
    let send : Transport Unit := fun _ _ => (⟨⟨{ status := 503 }, .zero⟩, 0⟩, ())
    ∃ src, Source.ofService? m.service "default" false = some src ∧
      let plan : Plan ServiceScene Unit Suspension :=
        ⟨src, send, ⟨"shop", "default"⟩, get, get.isIdempotent false, .one⟩
      let scene : ServiceScene := { service := m.service, clock := 0, words := default }
      (callsOf (start plan scene ()).log).length = 1 ∧
      retriesOf (start plan scene ()).log = [.retried "shop" none "a:80" 502 503 1] ∧
      ¬RetriesAsCalled plan scene () := by
  intro m get send
  have fits : (Source.ofService? m.service "default" false).isSome := by decide +kernel
  let plan : Plan ServiceScene Unit Suspension :=
    ⟨(Source.ofService? m.service "default" false).get fits, send, ⟨"shop", "default"⟩, get,
      get.isIdempotent false, .one⟩
  let scene : ServiceScene := { service := m.service, clock := 0, words := default }
  have facts : (callsOf (start plan scene ()).log).length = 1 ∧
      retriesOf (start plan scene ()).log = [.retried "shop" none "a:80" 502 503 1] := by
    decide +kernel +revert
  obtain ⟨once, told⟩ := facts
  refine ⟨_, (Option.some_get fits).symm, once, told, fun as => ?_⟩
  have silent := as.silent (Nat.le_of_eq once)
  rw [told] at silent
  cases silent

end Attempt

end Balancing
