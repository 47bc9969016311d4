import Balancing.Proofs.Attempt.History

namespace Balancing

-- The words of the rules themselves, next to the test that runs (`isRetriable_iff`).
def Policy.Allows (p : Policy) (idempotent : Prop) (r : Response) : Prop :=
  r.isConnectError ∨ ∃ always, p.rule r.status = some always ∧ (always ∨ idempotent)

theorem Policy.isRetriable_iff (p : Policy) (r : Response) (idempotent : Bool) :
    p.isRetriable r idempotent ↔ p.Allows idempotent r := by
  unfold Policy.isRetriable Policy.Allows
  cases found : p.rule r.status with
  | none => simp
  | some always => simp

-- Whatever may be sent again counts as a server's error.
theorem Policy.isServerError_of_allows {p : Policy} {r : Response} {idempotent : Prop}
    (allowed : p.Allows idempotent r) : p.isServerError r = true := by
  unfold Policy.isServerError
  rw [Bool.or_eq_true]
  cases allowed with
  | inl connect => exact .inl connect
  | inr ruled =>
    obtain ⟨always, found, _⟩ := ruled
    exact .inr (by rw [found]; rfl)

theorem Policy.allows_congr {p : Policy} {idempotent idempotent' : Prop} {r : Response}
    (same : idempotent ↔ idempotent') : p.Allows idempotent r ↔ p.Allows idempotent' r := by
  rw [propext same]

theorem Request.isIdempotent_iff (r : Request) (force : Bool) :
    r.isIdempotent force ↔ force = true ∨ r.method ≠ "POST" := by
  simp [Request.isIdempotent]

namespace Attempt

variable {σ τ ε : Type}

-- What the first `n` attempts of a history took.
def History.spent (h : History σ τ ε) (n : Nat) : Nat :=
  (h.made.take n).foldr (fun made total => made.result.elapsed.nanoseconds + total) 0

theorem History.spent_cons (looks : Nat) (first : Made σ τ ε) (later : History σ τ ε) (n : Nat) :
    (History.mk looks (first :: later.made) later.refusal).spent (n + 1)
      = first.result.elapsed.nanoseconds + later.spent n := rfl

-- A source that looks at nothing but the rules before another attempt.
def Source.Asks (src : Source σ ε) (policy : Policy) : Prop :=
  ∀ response idempotent s,
    src.mayRetry response idempotent s = (policy.isRetriable response idempotent, s, [])

theorem again_settle_iff {src : Source σ ε} {policy : Policy} (asks : Source.Asks src policy)
    (idempotent : Bool) (budget : Budget) (progress : Progress) (target : Target)
    (result : TimedResponse) (s : σ) :
    (settle src idempotent budget progress target result s).again ↔
      (budget.charge result.elapsed).canRetry ∧ policy.isRetriable result.response idempotent := by
  simp only [settle]
  split
  · rename_i left
    rw [asks]
    simp [left]
  · rename_i spent
    simp [spent]

variable {plan : Plan σ τ ε} {policy : Policy}

theorem again_make_iff (asks : Source.Asks plan.source policy) (budget : Budget)
    (progress : Progress) (target : Target) (s : σ) (t : τ) :
    let made := make plan budget progress target s t
    made.again ↔ 1 < budget.triesLeft ∧
      made.result.elapsed.nanoseconds < budget.timeLeft.nanoseconds ∧
      policy.Allows plan.idempotent made.result.response := by
  intro made
  rw [← Policy.isRetriable_iff, ← and_assoc, ← Budget.canRetry_charge_iff]
  exact again_settle_iff asks _ budget progress target made.result _

theorem budget_make (budget : Budget) (progress : Progress) (target : Target) (s : σ) (t : τ) :
    (make plan budget progress target s t).budget
      = budget.charge (make plan budget progress target s t).result.elapsed := rfl

theorem looks_again_iff (asks : Source.Asks plan.source policy) (budget : Budget)
    (progress : Progress) (s : σ) (t : τ) : ∀ (k : Nat) (made : Made σ τ ε),
    (history plan budget progress s t).made[k]? = some made →
      (k + 1 < (history plan budget progress s t).looks ↔
        k + 1 < budget.triesLeft ∧
        (history plan budget progress s t).spent (k + 1) < budget.timeLeft.nanoseconds ∧
        policy.Allows plan.idempotent made.result.response) := by
  fun_induction history plan budget progress s t with
  | case1 =>
    intro k made kth
    simp at kth
  | case2 budget progress s t target s' resolveNotes found first again later ih =>
    intro k made kth
    have allowed := (again_make_iff asks budget progress target s' t).mp again
    rw [History.spent_cons]
    cases k with
    | zero =>
      obtain rfl : first = made := by simpa using kth
      have more : 0 < later.looks := looks_pos ..
      have nothing : later.spent 0 = 0 := by simp [History.spent]
      rw [nothing]
      constructor
      · intro _
        exact allowed
      · intro _
        exact Nat.succ_lt_succ more
    | succ k =>
      have left : first.budget = budget.charge first.result.elapsed := budget_make ..
      have rest : k + 1 < later.looks ↔ k + 1 < first.budget.triesLeft ∧
          later.spent (k + 1) < first.budget.timeLeft.nanoseconds ∧
          policy.Allows plan.idempotent made.result.response := ih k made kth
      rw [left, Budget.triesLeft_charge, Budget.nanoseconds_charge] at rest
      have tries : k + 1 < budget.triesLeft - 1 ↔ k + 1 + 1 < budget.triesLeft := by omega
      have time : later.spent (k + 1)
            < budget.timeLeft.nanoseconds - first.result.elapsed.nanoseconds ↔
          first.result.elapsed.nanoseconds + later.spent (k + 1)
            < budget.timeLeft.nanoseconds := by
        omega
      rw [← tries, ← time, ← rest]
      exact Nat.add_lt_add_iff_right
  | case3 budget progress s t target s' resolveNotes found last final =>
    intro k made kth
    have refused := mt (again_make_iff asks budget progress target s' t).mpr final
    cases k with
    | succ k => simp at kth
    | zero =>
      obtain rfl : last = made := by simpa using kth
      simpa [History.spent] using refused

-- After attempt `k + 1` a further target is looked for exactly under these three conditions. Only a
-- request other than a POST may be repeated unasked.
def LooksAgainExactly (profile : Profile) (force : Bool) (plan : Plan σ τ ε) (s : σ) (t : τ) :
    Prop :=
  let h := history plan plan.source.budget {} s t
  ∀ k made, h.made[k]? = some made →
    (k + 1 < looksOf plan s t ↔
      k + 1 < profile.maxTries.toNat ∧
      h.spent (k + 1) < profile.requestTimeout.nanoseconds * max profile.maxTimeoutTries.toNat 1 ∧
      profile.retryPolicy.Allows (force = true ∨ plan.request.method ≠ "POST")
        made.result.response)

-- All that is said of one request sent under a profile.
structure RetriedWithin (profile : Profile) (force : Bool) (plan : Plan σ τ ε) (s : σ) (t : τ) :
    Prop where
  looks_again : LooksAgainExactly profile force plan s t
  calls : callsOf (start plan s t).log
    = (history plan plan.source.budget {} s t).made.map (·.call)
  calls_le : (callsOf (start plan s t).log).length ≤ max profile.maxTries.toNat 1
  post_again : force = false → plan.request.method = "POST" →
    ∀ k made, (history plan plan.source.budget {} s t).made[k]? = some made →
      k + 1 < (callsOf (start plan s t).log).length →
      made.result.response.isConnectError ∨
        profile.retryPolicy.rule made.result.response.status = some true

-- What a source takes from its profile; both kinds of request have such sources.
structure Source.Follows (src : Source σ ε) (profile : Profile) : Prop where
  tries : src.budget.triesLeft = profile.maxTries.toNat
  time : src.budget.timeLeft.nanoseconds
    = profile.requestTimeout.nanoseconds * max profile.maxTimeoutTries.toNat 1
  asks : Source.Asks src profile.retryPolicy

theorem totalTimeout_nanoseconds {profile : Profile} {total : Duration}
    (fits : profile.totalTimeout? = some total) : total.nanoseconds
      = profile.requestTimeout.nanoseconds * max profile.maxTimeoutTries.toNat 1 := by
  unfold Profile.totalTimeout? Duration.times? Duration.ofNanoseconds? at fits
  split at fits
  · cases fits
    rfl
  · cases fits

theorem follows_ofService {service : Service} {name : String} {adaptive : Bool}
    {src : Source ServiceScene Suspension}
    (made : Source.ofService? service name adaptive = some src) :
    Source.Follows src (service.profile name) := by
  obtain ⟨total, fits, rfl⟩ := Option.map_eq_some_iff.mp made
  exact ⟨rfl, totalTimeout_nanoseconds fits, fun _ _ _ => rfl⟩

theorem follows_external {request : Request} {profile : Profile} {src : Source Instant Suspension}
    (made : Source.external? request profile = some src) : Source.Follows src profile := by
  obtain ⟨total, fits, rfl⟩ := Option.map_eq_some_iff.mp made
  exact ⟨rfl, totalTimeout_nanoseconds fits, fun _ _ _ => rfl⟩

theorem looks_again_of_follows {profile : Profile} (follows : Source.Follows plan.source profile)
    {force : Bool} (idempotent : plan.idempotent = plan.request.isIdempotent force)
    (s : σ) (t : τ) : LooksAgainExactly profile force plan s t := by
  intro k made kth
  have step := looks_again_iff follows.asks plan.source.budget {} s t k made kth
  have same : plan.idempotent ↔ force = true ∨ plan.request.method ≠ "POST" := by
    rw [idempotent]
    exact Request.isIdempotent_iff ..
  rwa [← looksOf_eq, follows.tries, follows.time, Policy.allows_congr same] at step

-- The attempt before the last one was followed by another, so it was not the last one allowed.
theorem length_made_le {profile : Profile} {force : Bool} {s : σ} {t : τ}
    (looks : LooksAgainExactly profile force plan s t) :
    (history plan plan.source.budget {} s t).made.length ≤ max profile.maxTries.toNat 1 := by
  have looked := length_made_le_looks plan plan.source.budget {} s t
  rw [← looksOf_eq] at looked
  cases many : (history plan plan.source.budget {} s t).made.length with
  | zero => exact Nat.zero_le _
  | succ n =>
    cases n with
    | zero => exact Nat.le_max_right ..
    | succ k =>
      have inside : k < (history plan plan.source.budget {} s t).made.length := by omega
      have kth := looks k _ (List.getElem?_eq_getElem inside)
      have tries := (kth.mp (by omega)).1
      omega

theorem post_again_of_looks {profile : Profile} {s : σ} {t : τ}
    (looks : LooksAgainExactly profile false plan s t) (post : plan.request.method = "POST")
    {k : Nat} {made : Made σ τ ε}
    (kth : (history plan plan.source.budget {} s t).made[k]? = some made)
    (more : k + 1 < (history plan plan.source.budget {} s t).made.length) :
    made.result.response.isConnectError ∨
      profile.retryPolicy.rule made.result.response.status = some true := by
  have looked : k + 1 < looksOf plan s t := by
    rw [looksOf_eq]
    exact Nat.lt_of_lt_of_le more (length_made_le_looks plan plan.source.budget {} s t)
  obtain ⟨_, _, allowed⟩ := (looks k made kth).mp looked
  rcases allowed with failed | ⟨always, found, forced | unasked⟩
  · exact .inl failed
  · exact .inr (forced ▸ found)
  · simp [post] at unasked

theorem retriedWithin_of_follows {profile : Profile} (follows : Source.Follows plan.source profile)
    {force : Bool} (idempotent : plan.idempotent = plan.request.isIdempotent force)
    (s : σ) (t : τ) : RetriedWithin profile force plan s t := by
  have looks := looks_again_of_follows follows idempotent s t
  have calls : callsOf (start plan s t).log
      = (history plan plan.source.budget {} s t).made.map (·.call) := callsOf_run ..
  refine ⟨looks, calls, ?_, ?_⟩
  · rw [calls, List.length_map]
    exact length_made_le looks
  · intro unforced post k made kth more
    subst unforced
    rw [calls, List.length_map] at more
    exact post_again_of_looks looks post kth more

end Attempt

end Balancing
