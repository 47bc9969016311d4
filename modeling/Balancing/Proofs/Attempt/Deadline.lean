import Balancing.Proofs.Attempt.Rounds
import Balancing.Proofs.Numbers.Seconds

namespace Balancing

variable {τ : Type}

-- No attempt takes longer than the time it was given.
def Transport.Obeys (send : Transport τ) : Prop :=
  ∀ call t given, call.request.timeout = some given →
    (send call t).1.result.elapsed.nanoseconds ≤ given.nanoseconds

namespace Attempt

variable {σ ε : Type} {plan : Plan σ τ ε} {s : σ} {t : τ}

theorem History.spent_eq_sum (h : History σ τ ε) (n : Nat) :
    h.spent n = ((h.made.take n).map (·.result.elapsed.nanoseconds)).sum := by
  unfold spent
  induction h.made.take n with
  | nil => rfl
  | cons made rest ih => rw [List.foldr_cons, List.map_cons, List.sum_cons, ih]

theorem History.spent_succ {h : History σ τ ε} {k : Nat} {made : Made σ τ ε}
    (kth : h.made[k]? = some made) :
    h.spent (k + 1) = h.spent k + made.result.elapsed.nanoseconds := by
  rw [spent_eq_sum, spent_eq_sum, List.take_add_one, kth, List.map_append, List.sum_append]
  rfl

theorem History.spent_le (h : History σ τ ε) {k n : Nat} (le : k ≤ n) : h.spent k ≤ h.spent n := by
  obtain ⟨more, rfl⟩ := Nat.exists_eq_add_of_le le
  rw [spent_eq_sum, spent_eq_sum, List.take_add, List.map_append, List.sum_append]
  exact Nat.le_add_right ..

theorem given_of_made (budget : Budget) (progress : Progress) (s : σ) (t : τ) :
    let h := history plan budget progress s t
    ∀ k made, h.made[k]? = some made → ∃ left : Duration,
      left.nanoseconds = budget.timeLeft.nanoseconds - h.spent k ∧ made.call.request.timeout
        = some ((plan.source.requestTimeout.shorter left).scale plan.factor) := by
  fun_induction history plan budget progress s t with
  | case1 =>
    intro h k made kth
    cases kth
  | case2 budget progress s t target s' resolveNotes found first again later ih =>
    intro h k made kth
    cases k with
    | zero =>
      cases kth
      exact ⟨budget.timeLeft, rfl, rfl⟩
    | succ k =>
      obtain ⟨left, same, given⟩ := ih k made kth
      refine ⟨left, ?_, given⟩
      have charged : first.budget.timeLeft.nanoseconds
        = budget.timeLeft.nanoseconds - first.result.elapsed.nanoseconds := rfl
      have rest : left.nanoseconds = first.budget.timeLeft.nanoseconds - later.spent k := same
      show left.nanoseconds
        = budget.timeLeft.nanoseconds - (first.result.elapsed.nanoseconds + later.spent k)
      omega
  | case3 budget progress s t target s' resolveNotes found last final =>
    intro h k made kth
    cases k with
    | zero =>
      cases kth
      exact ⟨budget.timeLeft, rfl, rfl⟩
    | succ k => cases kth

theorem elapsed_le_of_obeys (obeys : plan.send.Obeys) {k : Nat} {made : Made σ τ ε}
    (kth : (course plan s t).made[k]? = some made) {given : Duration}
    (timeout : made.call.request.timeout = some given) :
    made.result.elapsed.nanoseconds ≤ given.nanoseconds := by
  obtain ⟨budget, progress, target, looked, notes, t', _, rfl⟩ := look_of_made _ _ _ _ k made kth
  exact obeys _ t' given timeout

-- All attempts together take no longer than the total time.
def InTime (plan : Plan σ τ ε) (s : σ) (t : τ) : Prop :=
  (course plan s t).spent (course plan s t).made.length ≤ plan.source.budget.timeLeft.nanoseconds

-- No attempt is given more than the time left when it begins.
def Capped (plan : Plan σ τ ε) (s : σ) (t : τ) : Prop :=
  ∀ (k : Nat) made given, (course plan s t).made[k]? = some made →
    made.call.request.timeout = some given →
      given.nanoseconds ≤ plan.source.budget.timeLeft.nanoseconds - (course plan s t).spent k

theorem inTime_of_capped (capped : Capped plan s t) (obeys : plan.send.Obeys) :
    InTime plan s t := by
  have within : ∀ k, k ≤ (course plan s t).made.length →
      (course plan s t).spent k ≤ plan.source.budget.timeLeft.nanoseconds := by
    intro k le
    induction k with
    | zero => exact Nat.zero_le _
    | succ k ih =>
      have kth := List.getElem?_eq_getElem (Nat.lt_of_succ_le le)
      obtain ⟨_, _, timeout⟩ := given_of_made _ _ _ _ k _ kth
      have taken := elapsed_le_of_obeys obeys kth timeout
      have given := capped k _ _ kth timeout
      have before := ih (Nat.le_of_succ_le le)
      rw [History.spent_succ kth]
      omega
  exact within _ (Nat.le_refl _)

theorem nanoseconds_shorter (d e : Duration) :
    (d.shorter e).nanoseconds = min d.nanoseconds e.nanoseconds := by
  unfold Duration.shorter
  split <;> omega

theorem capped_of_small (factor : plan.factor.isFactor → plan.factor.value ≤ 1)
    (small : plan.source.requestTimeout.nanoseconds < 2 ^ 23 * nanosPerSecond) (s : σ) (t : τ) :
    Capped plan s t := by
  intro k made given kth timeout
  obtain ⟨left, same, scaled⟩ := given_of_made _ _ _ _ k made kth
  rw [timeout, Option.some.injEq] at scaled
  have shorter := nanoseconds_shorter plan.source.requestTimeout left
  have below : (plan.source.requestTimeout.shorter left).nanoseconds < 2 ^ 23 * nanosPerSecond := by
    rw [shorter]
    exact Nat.lt_of_le_of_lt (Nat.min_le_left ..) small
  have shrunk := Duration.scale_le _ factor below
  rw [scaled, ← same]
  exact shrunk.trans (shorter.trans_le (Nat.min_le_right ..))

def sending (plan : Plan σ τ ε) (send : Transport τ) : Plan σ τ ε := { plan with send }

-- The same answers, but for one attempt that is answered just in its time.
def late (send : Transport τ) (n : Nat) : Transport τ := fun call t =>
  let (reply, t) := send call t
  if call.attempt = n then
    let elapsed := call.request.timeout.getD reply.result.elapsed
    ({ reply with result := { reply.result with elapsed } }, t)
  else (reply, t)

theorem obeys_late {send : Transport τ} (obeys : send.Obeys) (n : Nat) : (late send n).Obeys := by
  intro call t given timeout
  unfold late
  dsimp only
  split
  · rw [timeout]
    exact Nat.le_refl _
  · exact obeys call t given timeout

theorem late_of_ne (send : Transport τ) {n : Nat} {call : Call} (other : call.attempt ≠ n) (t : τ) :
    late send n call t = send call t := by
  unfold late
  exact if_neg other

theorem elapsed_late (send : Transport τ) (call : Call) (t : τ) {given : Duration}
    (timeout : call.request.timeout = some given) :
    (late send call.attempt call t).1.result.elapsed = given := by
  unfold late
  simp only [if_true, timeout, Option.getD_some]

section

variable {n : Nat} {budget : Budget} {progress : Progress} {s' : σ} {target : Target}
  {resolveNotes : List ε}

theorem make_late_of_ne (other : progress.retries ≠ n) :
    make (sending plan (late plan.send n)) budget progress target s t
      = make plan budget progress target s t := by
  have same (request : Request) : late plan.send n ⟨progress.retries, request, plan.context⟩ t
      = plan.send ⟨progress.retries, request, plan.context⟩ t := late_of_ne plan.send other t
  simp only [make, sending, outbound, same]

theorem head_history
    (found : plan.source.resolve plan.request s = (.ok target, s', resolveNotes)) :
    (history plan budget progress s t).made[0]? = some (make plan budget progress target s' t) := by
  rw [history, found]
  dsimp only
  split <;> rfl

theorem history_of_again
    (found : plan.source.resolve plan.request s = (.ok target, s', resolveNotes))
    (again : (make plan budget progress target s' t).again) :
    history plan budget progress s t =
      let made := make plan budget progress target s' t
      let later := history plan made.budget
        { made.progress with retries := made.progress.retries + 1 } made.source made.transport
      ⟨later.looks + 1, made :: later.made, later.refusal⟩ := by
  rw [history, found]
  exact if_pos again

end

-- Up to that attempt nothing differs. The induction is on the attempts before it.
theorem late_of_made (n : Nat) (budget : Budget) (progress : Progress) (s : σ) (t : τ) :
    let h := history plan budget progress s t
    let delayed := history (sending plan (late plan.send n)) budget progress s t
    ∀ k made given, progress.retries + k = n → h.made[k]? = some made →
      made.call.request.timeout = some given → delayed.spent k = h.spent k ∧
        ∃ made', delayed.made[k]? = some made' ∧ made'.result.elapsed = given := by
  fun_induction history plan budget progress s t with
  | case1 =>
    intro h delayed k made given place kth
    cases kth
  | case2 budget progress s t target s' resolveNotes found first again later ih =>
    intro h delayed k made given place kth timeout
    have found' : (sending plan (late plan.send n)).source.resolve plan.request s
        = (.ok target, s', resolveNotes) := found
    cases k with
    | zero =>
      cases kth
      subst place
      exact ⟨rfl, _, head_history found', elapsed_late plan.send first.call t timeout⟩
    | succ k =>
      have same : make (sending plan (late plan.send n)) budget progress target s' t = first :=
        make_late_of_ne (by omega)
      have again' : (make (sending plan (late plan.send n)) budget progress target s' t).again := by
        rw [same]
        exact again
      have next : first.progress.retries + 1 + k = n := by
        rw [← place]
        exact Nat.succ_add_eq_add_succ ..
      obtain ⟨spent, made', there, elapsed⟩ := ih k made given next kth timeout
      have unfolded : delayed = _ := history_of_again found' again'
      rw [same] at unfolded
      rw [unfolded]
      exact ⟨congrArg (first.result.elapsed.nanoseconds + ·) spent, made', there, elapsed⟩
  | case3 budget progress s t target s' resolveNotes found last final =>
    intro h delayed k made given place kth timeout
    have found' : (sending plan (late plan.send n)).source.resolve plan.request s
        = (.ok target, s', resolveNotes) := found
    cases k with
    | zero =>
      cases kth
      subst place
      exact ⟨rfl, _, head_history found', elapsed_late plan.send last.call t timeout⟩
    | succ k => cases kth

-- If an attempt were given more than is left, an answer just in time would come too late.
theorem capped_of_inTime
    (inTime : ∀ send, Transport.Obeys send → InTime (sending plan send) s t) {send : Transport τ}
    (obeys : send.Obeys) : Capped (sending plan send) s t := by
  intro k made given kth timeout
  obtain ⟨same, made', there, elapsed⟩ := late_of_made k plan.source.budget {} s t k made given
    (Nat.zero_add k) kth timeout
  have inside := (List.getElem?_eq_some_iff.mp there).1
  have total := inTime (late send k) (obeys_late obeys k)
  have passed := History.spent_le (course (sending plan (late send k)) s t)
    (Nat.succ_le_of_lt inside)
  have spent := History.spent_succ there
  rw [elapsed, same] at spent
  exact Nat.le_sub_of_add_le' (spent.symm.trans_le (passed.trans total))

-- What a source takes from its profile for the times of a request.
structure Source.Times (src : Source σ ε) (profile : Profile) : Prop where
  total : profile.totalTimeout? = some src.budget.timeLeft
  request : src.requestTimeout = profile.requestTimeout

theorem times_ofService {service : Service} {name : String} {adaptive : Bool}
    {src : Source ServiceScene Suspension}
    (made : Source.ofService? service name adaptive = some src) :
    Source.Times src (service.profile name) := by
  obtain ⟨total, fits, rfl⟩ := Option.map_eq_some_iff.mp made
  exact ⟨fits, rfl⟩

theorem times_external {request : Request} {profile : Profile} {src : Source Instant Suspension}
    (made : Source.external? request profile = some src) : Source.Times src profile := by
  obtain ⟨total, fits, rfl⟩ := Option.map_eq_some_iff.mp made
  exact ⟨fits, rfl⟩

-- All that is said of the times of one request.
structure TimeKept (profile : Profile) (plan : Plan σ τ ε) (s : σ) (t : τ) : Prop where
  total : profile.totalTimeout? = some plan.source.budget.timeLeft
  given : ∀ (k : Nat) made, (course plan s t).made[k]? = some made → ∃ left : Duration,
    left.nanoseconds = plan.source.budget.timeLeft.nanoseconds - (course plan s t).spent k ∧
    made.call.request.timeout = some ((profile.requestTimeout.shorter left).scale plan.factor)
  -- only the last attempt can pass the total time
  before : ∀ k, k + 1 < (course plan s t).made.length →
    (course plan s t).spent (k + 1) < plan.source.budget.timeLeft.nanoseconds
  exact : (∀ send, Transport.Obeys send → InTime (sending plan send) s t) ↔
    ∀ send, Transport.Obeys send → Capped (sending plan send) s t
  small : (plan.factor.isFactor → plan.factor.value ≤ 1) →
    profile.requestTimeout.nanoseconds < 2 ^ 23 * nanosPerSecond →
      Capped plan s t ∧ (plan.send.Obeys → InTime plan s t)

theorem timeKept_of_times {profile : Profile} (times : Source.Times plan.source profile)
    (follows : Source.Follows plan.source profile) (s : σ) (t : τ) : TimeKept profile plan s t := by
  refine ⟨times.total, ?_, ?_, ⟨?_, ?_⟩, ?_⟩
  · rw [← times.request]
    exact given_of_made plan.source.budget {} s t
  · intro k more
    have kth := List.getElem?_eq_getElem (Nat.lt_of_succ_lt more)
    have looked := Nat.lt_of_lt_of_le more (length_made_le_looks ..)
    exact ((looks_again_iff follows.asks _ _ _ _ k _ kth).mp looked).2.1
  · intro inTime send obeys
    exact capped_of_inTime inTime obeys
  · intro capped send obeys
    exact inTime_of_capped (capped send obeys) obeys
  · intro factor small
    rw [← times.request] at small
    have capped := capped_of_small factor small s t
    exact ⟨capped, inTime_of_capped capped⟩

theorem time_kept_under_small_factor (request : Request) (idempotent : Bool) (context : Context)
    (factor : Binary64) (send : Transport τ) (t : τ) :
    (∀ (ω : Type) (others : Others ω) (service : Service) (name : String) (adaptive : Bool)
      (src : Source ServiceScene Suspension) (s : ServiceScene × ω),
      Source.ofService? service name adaptive = some src → TimeKept (service.profile name)
        ⟨src.among others, send, context, request, idempotent, factor⟩ s t) ∧
    ∀ (profile : Profile) (src : Source Instant Suspension) (clock : Instant),
      Source.external? request profile = some src →
        TimeKept profile ⟨src, send, context, request, idempotent, factor⟩ clock t := by
  constructor
  · intro ω others service name adaptive src s made
    have times := times_ofService made
    exact timeKept_of_times ⟨times.total, times.request⟩
      (follows_among (follows_ofService made) others) s t
  · intro profile src clock made
    exact timeKept_of_times (times_external made) (follows_external made) clock t

-- The third attempt is given the rest of two seconds and takes all of it.
theorem three_attempts_in_two_seconds :
    let profile : Profile := { maxTries := 3, maxTimeoutTries := 2, requestTimeoutMs := 1000 }
    let get : Request := { method := "GET", uri := ⟨some "http", some "host", some .root⟩ }
    let send : Transport Unit := fun call _ =>
      let elapsed := (Duration.ofMillis 900).shorter (call.request.timeout.getD .zero)
      (⟨⟨{ status := 503 }, elapsed⟩, 0⟩, ())
    ∃ src, Source.external? get profile = some src ∧
      let plan : Plan Instant Unit Suspension := ⟨src, send, .external get, get, true, .one⟩
      (callsOf (start plan 0 ()).log).map (·.request.timeout)
        = [some (.ofMillis 1000), some (.ofMillis 1000), some (.ofMillis 200)] ∧
      TimeKept profile plan 0 () ∧ InTime plan 0 () := by
  intro profile get send
  have fits : (Source.external? get profile).isSome := by decide +kernel
  let plan : Plan Instant Unit Suspension :=
    ⟨(Source.external? get profile).get fits, send, .external get, get, true, .one⟩
  have calls : (callsOf (start plan 0 ()).log).map (·.request.timeout)
      = [some (.ofMillis 1000), some (.ofMillis 1000), some (.ofMillis 200)] := by
    decide +kernel +revert
  have obeys : plan.send.Obeys := by
    intro call t given timeout
    show ((Duration.ofMillis 900).shorter (call.request.timeout.getD .zero)).nanoseconds ≤ _
    rw [timeout, nanoseconds_shorter]
    exact Nat.min_le_right ..
  have kept := (time_kept_under_small_factor get true (.external get) .one send ()).2 profile _ 0
    (Option.some_get fits).symm
  have factor : Binary64.one.value ≤ 1 := Binary64.value_one.le
  have small : profile.requestTimeout.nanoseconds < 2 ^ 23 * nanosPerSecond := by decide +kernel
  exact ⟨_, (Option.some_get fits).symm, calls, kept, (kept.small (fun _ => factor) small).2 obeys⟩

-- An answer that takes all the time it is given.
def patient : Transport Unit := fun call _ =>
  (⟨⟨{ status := 200 }, call.request.timeout.getD .zero⟩, 0⟩, ())

theorem obeys_patient : patient.Obeys := by
  intro call t given timeout
  show (call.request.timeout.getD .zero).nanoseconds ≤ _
  rw [timeout]
  exact Nat.le_refl _

-- With it a request takes longer than its total time.
def PassesTotal (profile : Profile) (factor : Binary64) : Prop :=
  let get : Request := { method := "GET", uri := ⟨some "http", some "host", some .root⟩ }
  ∃ src, Source.external? get profile = some src ∧
    let plan : Plan Instant Unit Suspension := ⟨src, patient, .external get, get, true, factor⟩
    plan.factor.isFactor = true ∧ plan.send.Obeys ∧ ¬InTime plan 0 () ∧ ¬Capped plan 0 ()

theorem passesTotal_of_late {profile : Profile} {factor : Binary64}
    {src : Source Instant Suspension} (usable : factor.isFactor = true) :
    let get : Request := { method := "GET", uri := ⟨some "http", some "host", some .root⟩ }
    Source.external? get profile = some src →
      ¬InTime ⟨src, patient, .external get, get, true, factor⟩ 0 () →
        PassesTotal profile factor := by
  intro get made late
  exact ⟨src, made, usable, obeys_patient, late, fun capped =>
    late (inTime_of_capped capped obeys_patient)⟩

-- Two seconds where there is one, and a nanosecond too much: from 2^23 seconds on the binary number
-- of seconds is farther from the time than half a nanosecond.
theorem scaled_time_passes_total :
    PassesTotal { requestTimeoutMs := 1000 } (.ofNat 2) ∧
      PassesTotal { requestTimeoutMs := 8388608004 } .one := by
  let get : Request := { method := "GET", uri := ⟨some "http", some "host", some .root⟩ }
  have fits : (Source.external? get { requestTimeoutMs := 1000 }).isSome ∧
      (Source.external? get { requestTimeoutMs := 8388608004 }).isSome := by decide +kernel
  constructor
  · refine passesTotal_of_late (by decide +kernel) (Option.some_get fits.1).symm ?_
    unfold InTime
    decide +kernel +revert
  · refine passesTotal_of_late (by decide +kernel) (Option.some_get fits.2).symm ?_
    unfold InTime
    decide +kernel +revert

end Attempt

end Balancing
