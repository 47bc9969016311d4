import Balancing.Attempt.Sources

namespace Balancing.Attempt

variable {σ τ ε : Type}

-- `refusal` is the response that stood in for a target when none was found.
structure History (σ τ ε : Type) where
  looks : Nat
  made : List (Made σ τ ε)
  refusal : Option Response

variable (plan : Plan σ τ ε)

-- Branch by branch the recursion of `run`; only what is kept of it differs.
def history (budget : Budget) (progress : Progress) (s : σ) (t : τ) : History σ τ ε :=
  match plan.source.resolve plan.request s with
  | (.error response, _, _) => ⟨1, [], some response⟩
  | (.ok target, s, _) =>
    let made := make plan budget progress target s t
    if made.again then
      let later := history made.budget { made.progress with retries := made.progress.retries + 1 }
        made.source made.transport
      ⟨later.looks + 1, made :: later.made, later.refusal⟩
    else ⟨1, [made], none⟩
termination_by budget.triesLeft
decreasing_by exact triesLeft_make_lt plan ‹_›

section

variable {plan} {budget : Budget} {progress : Progress} {s s' : σ} {t : τ} {target : Target}
  {resolveNotes : List ε}

theorem run_of_refused {response : Response}
    (found : plan.source.resolve plan.request s = (.error response, s', resolveNotes)) :
    run plan budget progress s t
      = ⟨response, notes resolveNotes ++ closing plan progress response, s', t⟩ := by
  rw [run, found]

theorem run_of_again (found : plan.source.resolve plan.request s = (.ok target, s', resolveNotes))
    (again : (make plan budget progress target s' t).again) :
    run plan budget progress s t =
      let made := make plan budget progress target s' t
      let later := run plan made.budget
        { made.progress with retries := made.progress.retries + 1 } made.source made.transport
      { later with log := notes resolveNotes ++ made.log ++ later.log } := by
  rw [run, found]
  exact if_pos again

theorem run_of_final (found : plan.source.resolve plan.request s = (.ok target, s', resolveNotes))
    (final : ¬(make plan budget progress target s' t).again) :
    run plan budget progress s t =
      let made := make plan budget progress target s' t
      ⟨made.result.response,
        notes resolveNotes ++ made.log ++ closing plan made.progress made.result.response,
        made.source, made.transport⟩ := by
  rw [run, found]
  exact if_neg final

end

theorem looks_pos (budget : Budget) (progress : Progress) (s : σ) (t : τ) :
    0 < (history plan budget progress s t).looks := by
  rw [history]
  split
  · exact Nat.one_pos
  · dsimp only
    split
    · exact Nat.succ_pos _
    · exact Nat.one_pos

theorem length_made_le_looks (budget : Budget) (progress : Progress) (s : σ) (t : τ) :
    (history plan budget progress s t).made.length
      ≤ (history plan budget progress s t).looks := by
  fun_induction history plan budget progress s t with
  | case1 => exact Nat.zero_le _
  | case2 => simpa
  | case3 => exact Nat.le_refl _

@[simp] theorem callsOf_append (l l' : List (Happening ε)) :
    callsOf (l ++ l') = callsOf l ++ callsOf l' := List.filterMap_append

@[simp] theorem callsOf_notes (l : List ε) : callsOf (notes l) = [] := by
  induction l with
  | nil => rfl
  | cons note rest ih => exact ih

@[simp] theorem callsOf_closing (progress : Progress) (response : Response) :
    callsOf (closing plan progress response) = [] := by
  unfold closing
  split <;> rfl

@[simp] theorem callsOf_settle (src : Source σ ε) (idempotent : Bool) (budget : Budget)
    (progress : Progress) (target : Target) (result : TimedResponse) (s : σ) :
    callsOf (settle src idempotent budget progress target result s).log = [] := by
  simp only [settle, callsOf_append, callsOf_notes, List.nil_append, List.append_nil]
  rfl

@[simp] theorem callsOf_make (budget : Budget) (progress : Progress) (target : Target) (s : σ)
    (t : τ) :
    callsOf (make plan budget progress target s t).log
      = [(make plan budget progress target s t).call] := by
  simp only [make, callsOf_append, callsOf_notes, callsOf_settle, List.nil_append]
  rfl

theorem callsOf_run (budget : Budget) (progress : Progress) (s : σ) (t : τ) :
    callsOf (run plan budget progress s t).log
      = (history plan budget progress s t).made.map (·.call) := by
  fun_induction history plan budget progress s t with
  | case1 budget progress s t response s' resolveNotes found =>
    rw [run_of_refused found]
    simp
  | case2 budget progress s t target s' resolveNotes found made again later ih =>
    have calls : callsOf made.log = [made.call] := callsOf_make plan ..
    rw [run_of_again found again]
    simp only [callsOf_append, callsOf_notes, List.nil_append, List.map_cons]
    rw [ih, calls]
    rfl
  | case3 budget progress s t target s' resolveNotes found made final =>
    have calls : callsOf made.log = [made.call] := callsOf_make plan ..
    rw [run_of_final found final]
    simp only [callsOf_append, callsOf_notes, callsOf_closing, List.nil_append, List.append_nil]
    exact calls

-- The same source, with a count of how often it has been asked for a target.
def counted (src : Source σ ε) : Source (σ × Nat) ε where
  service := src.service
  datacenter := src.datacenter
  budget := src.budget
  requestTimeout := src.requestTimeout
  connectTimeout := src.connectTimeout
  resolve request := fun (s, n) =>
    let (found, s, resolveNotes) := src.resolve request s
    (found, (s, n + 1), resolveNotes)
  started target := fun (s, n) =>
    let (_, s, startNotes) := src.started target s
    ((), (s, n), startNotes)
  passed pause := fun (s, n) => (src.passed pause s, n)
  completed target result isError := fun (s, n) =>
    let (_, s, completeNotes) := src.completed target result isError s
    ((), (s, n), completeNotes)
  isServerError := src.isServerError
  mayRetry response idempotent := fun (s, n) =>
    let (allowed, s, checkNotes) := src.mayRetry response idempotent s
    (allowed, (s, n), checkNotes)
  decided target again := fun (s, n) =>
    let (_, s, decideNotes) := src.decided target again s
    ((), (s, n), decideNotes)

def countedPlan : Plan (σ × Nat) τ ε := { plan with source := counted plan.source }

theorem settle_counted (src : Source σ ε) (idempotent : Bool) (budget : Budget)
    (progress : Progress) (target : Target) (result : TimedResponse) (s : σ) (n : Nat) :
    let settled := settle src idempotent budget progress target result s
    settle (counted src) idempotent budget progress target result (s, n) =
      ⟨settled.again, settled.budget, settled.progress, settled.log, (settled.source, n)⟩ := by
  simp only [settle]
  split <;> rfl

theorem make_counted (budget : Budget) (progress : Progress) (target : Target) (s : σ) (n : Nat)
    (t : τ) :
    let made := make plan budget progress target s t
    make (countedPlan plan) budget progress target (s, n) t =
      { again := made.again, budget := made.budget, progress := made.progress, log := made.log,
        source := (made.source, n), target := made.target, call := made.call,
        result := made.result, transport := made.transport } := by
  intro made
  let start := plan.source.started target s
  let reply := plan.send made.call t
  have settled := settle_counted plan.source plan.idempotent budget progress target reply.1.result
    (plan.source.passed reply.1.pause start.2.1) n
  exact congrArg (fun left : Settled (σ × Nat) ε => ({ left with
    log := notes start.2.2 ++ [.called made.call] ++ left.log
    target, call := made.call, result := reply.1.result, transport := reply.2 } :
      Made (σ × Nat) τ ε)) settled

theorem resolve_counted {request : Request} {s s' : σ} {found : Except Response Target}
    {resolveNotes : List ε} (resolved : plan.source.resolve request s = (found, s', resolveNotes))
    (n : Nat) : (countedPlan plan).source.resolve request (s, n)
      = (found, (s', n + 1), resolveNotes) := by
  simp only [countedPlan, counted, resolved]

theorem run_counted (budget : Budget) (progress : Progress) (s : σ) (t : τ) : ∀ n : Nat,
    run (countedPlan plan) budget progress (s, n) t =
      let r := run plan budget progress s t
      ⟨r.response, r.log, (r.source, n + (history plan budget progress s t).looks),
        r.transport⟩ := by
  fun_induction history plan budget progress s t with
  | case1 budget progress s t response s' resolveNotes found =>
    intro n
    rw [run_of_refused found, run_of_refused (resolve_counted plan found n)]
    rfl
  | case2 budget progress s t target s' resolveNotes found made again later ih =>
    intro n
    have counted := make_counted plan budget progress target s' (n + 1) t
    have again' : (make (countedPlan plan) budget progress target (s', n + 1) t).again := by
      rw [counted]
      exact again
    have total : n + 1 + later.looks = n + (later.looks + 1) := by omega
    rw [run_of_again found again, run_of_again (resolve_counted plan found n) again', counted]
    dsimp only
    rw [ih (n + 1)]
    dsimp only
    rw [total]
  | case3 budget progress s t target s' resolveNotes found made final =>
    intro n
    have counted := make_counted plan budget progress target s' (n + 1) t
    have final' : ¬(make (countedPlan plan) budget progress target (s', n + 1) t).again := by
      rw [counted]
      exact final
    rw [run_of_final found final, run_of_final (resolve_counted plan found n) final', counted]
    rfl

-- How often a whole run looks for a target, by the count of its own source.
def looksOf (s : σ) (t : τ) : Nat := (start (countedPlan plan) (s, 0) t).source.2

theorem looksOf_eq (s : σ) (t : τ) :
    looksOf plan s t = (history plan plan.source.budget {} s t).looks := by
  have counted := run_counted plan plan.source.budget {} s t 0
  unfold looksOf start
  rw [show (countedPlan plan).source.budget = plan.source.budget from rfl, counted]
  exact Nat.zero_add _

end Balancing.Attempt
