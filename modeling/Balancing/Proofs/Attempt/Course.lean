import Balancing.Proofs.Attempt.Retrying

namespace Balancing.Attempt

variable {σ τ ε : Type}

-- The state after the first `k` attempts, from which attempt `k` starts.
def History.before (h : History σ τ ε) (s : σ) (k : Nat) : σ :=
  (h.made.take k).foldl (fun _ made => made.source) s

theorem History.before_succ {h : History σ τ ε} {k : Nat} {made : Made σ τ ε}
    (kth : h.made[k]? = some made) (s : σ) : h.before s (k + 1) = made.source := by
  unfold before
  rw [List.take_add_one, kth, List.foldl_append]
  rfl

-- The attempts of a whole run.
abbrev course (plan : Plan σ τ ε) (s : σ) (t : τ) : History σ τ ε :=
  history plan plan.source.budget {} s t

variable {plan : Plan σ τ ε}

theorem looks_eq (budget : Budget) (progress : Progress) (s : σ) (t : τ) :
    let h := history plan budget progress s t
    h.looks = h.made.length + h.refusal.toList.length := by
  fun_induction history plan budget progress s t with
  | case1 => rfl
  | case2 budget progress s t target s' resolveNotes found made again later ih =>
    have rest : later.looks = later.made.length + later.refusal.toList.length := ih
    show later.looks + 1 = later.made.length + 1 + later.refusal.toList.length
    omega
  | case3 => rfl

theorem lt_looks_of_made {budget : Budget} {progress : Progress} {s : σ} {t : τ} {k : Nat}
    {made : Made σ τ ε} (kth : (history plan budget progress s t).made[k]? = some made) :
    k < (history plan budget progress s t).looks :=
  Nat.lt_of_lt_of_le (List.getElem?_eq_some_iff.mp kth).1 (length_made_le_looks ..)

theorem lt_looks_of_refusal {budget : Budget} {progress : Progress} {s : σ} {t : τ}
    {response : Response} (refused : (history plan budget progress s t).refusal = some response) :
    (history plan budget progress s t).made.length < (history plan budget progress s t).looks := by
  rw [looks_eq, refused]
  exact Nat.lt_succ_self _

theorem look_of_made (budget : Budget) (progress : Progress) (s : σ) (t : τ) :
    let h := history plan budget progress s t
    ∀ k made, h.made[k]? = some made → ∃ budget' progress' target s' resolveNotes t',
      plan.source.resolve plan.request (h.before s k) = (.ok target, s', resolveNotes) ∧
      made = make plan budget' progress' target s' t' := by
  fun_induction history plan budget progress s t with
  | case1 =>
    intro h k made kth
    cases kth
  | case2 budget progress s t target s' resolveNotes found first again later ih =>
    intro h k made kth
    cases k with
    | zero =>
      cases kth
      exact ⟨budget, progress, target, s', resolveNotes, t, found, rfl⟩
    | succ k => exact ih k made kth
  | case3 budget progress s t target s' resolveNotes found last final =>
    intro h k made kth
    cases k with
    | zero =>
      cases kth
      exact ⟨budget, progress, target, s', resolveNotes, t, found, rfl⟩
    | succ k => cases kth

theorem look_of_refusal (budget : Budget) (progress : Progress) (s : σ) (t : τ) :
    let h := history plan budget progress s t
    ∀ response, h.refusal = some response → ∃ s' resolveNotes,
      plan.source.resolve plan.request (h.before s h.made.length)
        = (.error response, s', resolveNotes) := by
  fun_induction history plan budget progress s t with
  | case1 budget progress s t response s' resolveNotes found =>
    intro h response' refused
    cases refused
    exact ⟨s', resolveNotes, found⟩
  | case2 budget progress s t target s' resolveNotes found first again later ih => exact ih
  | case3 =>
    intro h response refused
    cases refused

-- Only an attempt that another one may follow is followed by a look.
theorem again_of_looks (budget : Budget) (progress : Progress) (s : σ) (t : τ) :
    let h := history plan budget progress s t
    ∀ k made, h.made[k]? = some made → k + 1 < h.looks → made.again = true := by
  fun_induction history plan budget progress s t with
  | case1 =>
    intro h k made kth
    cases kth
  | case2 budget progress s t target s' resolveNotes found first again later ih =>
    intro h k made kth more
    cases k with
    | zero =>
      cases kth
      exact again
    | succ k => exact ih k made kth (Nat.lt_of_succ_lt_succ more)
  | case3 =>
    intro h k made kth more
    exact absurd (Nat.lt_of_succ_lt_succ more) (Nat.not_lt_zero k)

-- What holds at the first look and is kept by every attempt that is followed by another look holds
-- whenever a target is looked for.
theorem before_induction {budget : Budget} {progress : Progress} {s : σ} {t : τ}
    (holds : Nat → σ → Prop) (first : holds 0 s)
    (next : let h := history plan budget progress s t
      ∀ k made, h.made[k]? = some made → made.again = true → holds k (h.before s k) →
        holds (k + 1) made.source) :
    let h := history plan budget progress s t
    ∀ k, k < h.looks → holds k (h.before s k) := by
  intro h k looked
  induction k with
  | zero => exact first
  | succ k ih =>
    have looks : h.looks = h.made.length + h.refusal.toList.length := looks_eq ..
    have atMost : h.refusal.toList.length ≤ 1 := by
      cases h.refusal <;> simp
    have inside : k < h.made.length := by omega
    have kth := List.getElem?_eq_getElem inside
    rw [History.before_succ kth]
    exact next k _ kth (again_of_looks budget progress s t k _ kth looked) (ih (by omega))

-- What the hooks of an attempt keep, the attempt keeps.
theorem holds_make {holds : σ → Prop} (budget : Budget) (progress : Progress) (target : Target)
    {s : σ} (t : τ) (started : ∀ target s, holds s → holds (plan.source.started target s).2.1)
    (passed : ∀ pause s, holds s → holds (plan.source.passed pause s))
    (completed : ∀ result s', result = (make plan budget progress target s t).result → holds s' →
      holds (plan.source.completed target result (plan.source.isServerError result.response)
        s').2.1)
    (mayRetry : ∀ response idempotent s, holds s →
      holds (plan.source.mayRetry response idempotent s).2.1)
    (decided : ∀ target again s, holds s → holds (plan.source.decided target again s).2.1)
    (before : holds s) : holds (make plan budget progress target s t).source := by
  have released (pause : Nat) := completed _ _ rfl (passed pause _ (started target s before))
  simp only [make, settle]
  split
  · exact decided _ _ _ (mayRetry _ _ _ (released _))
  · exact decided _ _ _ (released _)

-- The state that a run leaves is that of its last attempt, or of the look that was refused.
theorem source_run (budget : Budget) (progress : Progress) (s : σ) (t : τ) :
    let h := history plan budget progress s t
    (run plan budget progress s t).source
      = if h.refusal.isSome then
          (plan.source.resolve plan.request (h.before s h.made.length)).2.1
        else h.before s h.made.length := by
  fun_induction history plan budget progress s t with
  | case1 budget progress s t response s' resolveNotes found =>
    rw [run_of_refused found]
    show s' = (plan.source.resolve plan.request s).2.1
    rw [found]
  | case2 budget progress s t target s' resolveNotes found first again later ih =>
    rw [run_of_again found again]
    exact ih
  | case3 budget progress s t target s' resolveNotes found last final =>
    rw [run_of_final found final]
    rfl

-- So what holds after every attempt, and after a look that is refused, holds at the end.
theorem holds_run (holds : σ → Prop) {budget : Budget} {progress : Progress} {s : σ} {t : τ}
    (refused : let h := history plan budget progress s t
      ∀ response, h.refusal = some response →
        holds (plan.source.resolve plan.request (h.before s h.made.length)).2.1)
    (attempts : ∀ (k : Nat) (made : Made σ τ ε),
      (history plan budget progress s t).made[k]? = some made → holds made.source) :
    holds (run plan budget progress s t).source := by
  let h := history plan budget progress s t
  rw [source_run]
  cases refusal : h.refusal with
  | some response =>
    rw [Option.isSome_some, if_pos rfl]
    exact refused response refusal
  | none =>
    have looked : 0 < h.looks := looks_pos ..
    have counted : h.looks = h.made.length + h.refusal.toList.length := looks_eq ..
    rw [counted, refusal] at looked
    obtain ⟨k, many⟩ : ∃ k, h.made.length = k + 1 :=
      Nat.exists_eq_succ_of_ne_zero (Nat.ne_of_gt looked)
    have kth : h.made[k]? = some h.made[k] := List.getElem?_eq_getElem _
    rw [Option.isSome_none, if_neg Bool.false_ne_true, many, History.before_succ kth]
    exact attempts k _ kth

-- A refusal is the response of the run, or else the response of the last attempt is.
theorem response_run (budget : Budget) (progress : Progress) (s : σ) (t : τ) :
    let h := history plan budget progress s t
    h.refusal.or (h.made.getLast?.map fun made => made.result.response)
      = some (run plan budget progress s t).response := by
  fun_induction history plan budget progress s t with
  | case1 budget progress s t response s' resolveNotes found =>
    rw [run_of_refused found]
    rfl
  | case2 budget progress s t target s' resolveNotes found first again later ih =>
    have rest : later.refusal.or (later.made.getLast?.map fun made => made.result.response)
        = some (run plan first.budget { first.progress with retries := first.progress.retries + 1 }
          first.source first.transport).response := ih
    rw [run_of_again found again]
    show later.refusal.or ((first :: later.made).getLast?.map _) = _
    cases refused : later.refusal with
    | some response =>
      rw [refused] at rest
      exact rest
    | none =>
      cases last : later.made.getLast? with
      | none =>
        rw [refused, last] at rest
        cases rest
      | some made =>
        rw [refused, last] at rest
        rw [List.getLast?_cons, last]
        exact rest
  | case3 budget progress s t target s' resolveNotes found last final =>
    rw [run_of_final found final]
    rfl

-- Every response allows another attempt, and the attempts together take less than the time.
structure Retriable (profile : Profile) (force : Bool) (plan : Plan σ τ ε) (s : σ) (t : τ) :
    Prop where
  allowed : ∀ made ∈ (course plan s t).made,
    profile.retryPolicy.Allows (force = true ∨ plan.request.method ≠ "POST") made.result.response
  inTime : (course plan s t).spent (course plan s t).made.length
    < profile.requestTimeout.nanoseconds * max profile.maxTimeoutTries.toNat 1

theorem ends_of_retriable {profile : Profile} {force : Bool} {s : σ} {t : τ}
    (looks : LooksAgainExactly profile force plan s t)
    (retriable : Retriable profile force plan s t) :
    let h := course plan s t
    let tries := max profile.maxTries.toNat 1
    (h.made.length = tries ∧ h.refusal = none ∧ ∃ made, h.made.getLast? = some made ∧
      (start plan s t).response = made.result.response) ∨
    (h.made.length < tries ∧ h.refusal = some (start plan s t).response) := by
  intro h tries
  have counted : h.looks = h.made.length + h.refusal.toList.length := looks_eq ..
  have within : h.made.length ≤ tries := length_made_le looks
  have response : h.refusal.or (h.made.getLast?.map fun made => made.result.response)
      = some (start plan s t).response := response_run ..
  have further (positive : 0 < h.made.length) :
      h.made.length < h.looks ↔ h.made.length < profile.maxTries.toNat := by
    have inside : h.made.length - 1 < h.made.length := by omega
    have same : h.made.length - 1 + 1 = h.made.length := by omega
    have asked := looks (h.made.length - 1) _ (List.getElem?_eq_getElem inside)
    rw [looksOf_eq, same] at asked
    rw [asked]
    constructor
    · intro all
      exact all.1
    · intro left
      exact ⟨left, retriable.inTime, retriable.allowed _ (List.getElem_mem inside)⟩
  cases refused : h.refusal with
  | none =>
    rw [refused, Option.none_or] at response
    obtain ⟨made, last, same⟩ := Option.map_eq_some_iff.mp response
    have positive : 0 < h.made.length := by
      rw [List.length_pos_iff]
      rintro empty
      rw [empty] at last
      cases last
    have ended : ¬h.made.length < profile.maxTries.toNat := by
      rw [← further positive, counted, refused]
      exact Nat.lt_irrefl _
    exact .inl ⟨by omega, rfl, made, last, same.symm⟩
  | some r =>
    rw [refused, Option.some_or] at response
    refine .inr ⟨?_, response⟩
    rcases Nat.eq_zero_or_pos h.made.length with none | positive
    · omega
    · have left := (further positive).mp (lt_looks_of_refusal refused)
      omega

end Balancing.Attempt
