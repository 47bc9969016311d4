import Balancing.Client
import Balancing.Proofs.Attempt.Deadline
import Balancing.Proofs.Attempt.Trace
import Balancing.Proofs.Choice.Overflow
import Balancing.Proofs.Registry.Reloading

namespace Balancing

-- What a service that is kept to this entry takes under the name of a profile.
def ServiceEntry.profile (entry : ServiceEntry) (name : String) : Profile :=
  ((entry.profiles.get? name).or (entry.profiles.get? Profile.defaultName)).getD .standard

theorem Service.profile_of_entry {s : Service} {entry : ServiceEntry}
    (profiles : s.profiles = withDefault entry.profiles) (name : String) :
    s.profile name = entry.profile name := by
  unfold profile profile? ServiceEntry.profile
  rw [profiles, get?_withDefault, get?_withDefault, if_pos rfl]
  by_cases same : name = Profile.defaultName
  · rw [if_pos same, same]
    cases entry.profiles.get? Profile.defaultName <;> rfl
  · rw [if_neg same, Option.or_none]
    cases entry.profiles.get? name <;> cases entry.profiles.get? Profile.defaultName <;> rfl

theorem ConfigFile.faults_profile_of_entry {config : ConfigFile} (accepted : config.faults = [])
    {name : String} {entry : ServiceEntry} (listed : config.services.get? name = some entry)
    (profileName : String) : (entry.profile profileName).faults = [] := by
  unfold ServiceEntry.profile
  cases named : entry.profiles.get? profileName with
  | some profile => exact faults_profile accepted listed named
  | none =>
    cases default : entry.profiles.get? Profile.defaultName with
    | some profile => exact faults_profile accepted listed default
    | none => rfl

-- What the total time comes to in milliseconds.
def Profile.totalMs (p : Profile) : Nat := p.requestTimeoutMs.toNat * max p.maxTimeoutTries.toNat 1

theorem Profile.nanoseconds_totalMs (p : Profile) :
    p.requestTimeout.nanoseconds * max p.maxTimeoutTries.toNat 1 = p.totalMs * 1000000 :=
  Nat.mul_right_comm ..

theorem Profile.totalTimeout?_eq_none_iff (p : Profile) :
    p.totalTimeout? = none ↔ 2 ^ 64 * 1000 ≤ p.totalMs := by
  rw [totalTimeout?, Duration.times?, Duration.ofNanoseconds?, nanoseconds_totalMs]
  split
  · simp only [reduceCtorEq, false_iff]
    omega
  · simp only [true_iff]
    omega

-- 2^32 seconds are more than a century.
theorem Profile.totalMs_lt {p : Profile} (short : p.requestTimeoutMs.toNat < 2 ^ 32 * 1000) :
    p.totalMs < 2 ^ 64 * 1000 := by
  have tries : max p.maxTimeoutTries.toNat 1 ≤ 2 ^ 32 := by
    have below := p.maxTimeoutTries.toNat_lt
    omega
  calc p.totalMs ≤ p.requestTimeoutMs.toNat * 2 ^ 32 := Nat.mul_le_mul_left _ tries
    _ < 2 ^ 32 * 1000 * 2 ^ 32 := Nat.mul_lt_mul_of_pos_right short (by decide)
    _ = 2 ^ 64 * 1000 := by norm_num

theorem isFactor_usableFactor (given : Binary64) : (usableFactor given).isFactor := by
  unfold usableFactor
  split
  · assumption
  · decide +kernel

namespace Attempt

variable {σ τ ε : Type} {plan : Plan σ τ ε} {s : σ} {t : τ}

theorem numbered_of_made (budget : Budget) (progress : Progress) (s : σ) (t : τ) :
    let h := history plan budget progress s t
    ∀ k made, h.made[k]? = some made → made.call.attempt = progress.retries + k ∧
      made.budget.triesLeft = budget.triesLeft - (k + 1) ∧
      made.budget.timeLeft.nanoseconds = budget.timeLeft.nanoseconds - h.spent (k + 1) := by
  fun_induction history plan budget progress s t with
  | case1 =>
    intro h k made kth
    cases kth
  | case2 budget progress s t target s' resolveNotes found first again later ih =>
    intro h k made kth
    have tries : first.budget.triesLeft = budget.triesLeft - 1 := rfl
    have time : first.budget.timeLeft.nanoseconds
      = budget.timeLeft.nanoseconds - first.result.elapsed.nanoseconds := rfl
    cases k with
    | zero =>
      cases kth
      exact ⟨rfl, tries, time⟩
    | succ k =>
      obtain ⟨number, left, rest⟩ := ih k made kth
      have retries : first.progress.retries = progress.retries := rfl
      refine ⟨?_, ?_, ?_⟩
      · dsimp only at number
        omega
      · omega
      · show _ = budget.timeLeft.nanoseconds
          - (first.result.elapsed.nanoseconds + later.spent (k + 1))
        have rest : made.budget.timeLeft.nanoseconds
          = first.budget.timeLeft.nanoseconds - later.spent (k + 1) := rest
        omega
  | case3 budget progress s t target s' resolveNotes found last final =>
    intro h k made kth
    cases k with
    | zero =>
      cases kth
      exact ⟨rfl, rfl, rfl⟩
    | succ k => cases kth

-- How a time comes out of the factor.
def Scales (d : Duration) (factor : Binary64) (given : Duration) : Prop :=
  let product := (inSeconds d.nanoseconds).mul factor
  product = .infinite false ∧ given = d ∨
  ∃ m e, product = .finite false m e ∧
    (given.nanoseconds = Duration.nearestNanosecond m e ∨
      2 ^ 64 * nanosPerSecond ≤ Duration.nearestNanosecond m e ∧ given = d)

-- All that the attempts of a request compute with under a profile.
structure Computes (profile : Profile) (plan : Plan σ τ ε) (s : σ) (t : τ) : Prop where
  total : plan.source.budget.timeLeft.nanoseconds = profile.totalMs * 1000000
  -- attempts are counted in 32 bits
  numbered : ∀ k made, (course plan s t).made[k]? = some made →
    made.call.attempt = k ∧ k < 2 ^ 32
  -- an attempt begins with time left, none of which has been cut off at zero
  given : ∀ (k : Nat) made, (course plan s t).made[k]? = some made → ∃ left given : Duration,
    0 < left.nanoseconds ∧
    left.nanoseconds + (course plan s t).spent k = plan.source.budget.timeLeft.nanoseconds ∧
    made.call.request.timeout = some given ∧
    Scales (profile.requestTimeout.shorter left) plan.factor given
  -- it ends with what is left of tries and time, or with nothing
  charged : ∀ k made, (course plan s t).made[k]? = some made →
    made.budget.triesLeft = profile.maxTries.toNat - (k + 1) ∧
    made.budget.timeLeft.nanoseconds
      = plan.source.budget.timeLeft.nanoseconds - (course plan s t).spent (k + 1)
  latency : ∀ made ∈ (course plan s t).made,
    made.result.elapsed.micros.toNat = min (made.result.elapsed.nanoseconds / 1000) (2 ^ 64 - 1)

theorem computes_of_times {profile : Profile} (accepted : profile.faults = [])
    (times : Source.Times plan.source profile) (follows : Source.Follows plan.source profile)
    {force : Bool} (idempotent : plan.idempotent = plan.request.isIdempotent force)
    (usable : plan.factor.isFactor) (s : σ) (t : τ) : Computes profile plan s t := by
  obtain ⟨_, timeout⟩ := Profile.positive_of_accepted accepted
  have kept := timeKept_of_times times follows s t
  have total : plan.source.budget.timeLeft.nanoseconds = profile.totalMs * 1000000 :=
    follows.time.trans profile.nanoseconds_totalMs
  have positive : 0 < plan.source.budget.timeLeft.nanoseconds := by
    have some : 0 < profile.requestTimeoutMs.toNat :=
      UInt64.lt_iff_toNat_lt.mp (UInt64.pos_iff_ne_zero.mpr timeout)
    have tries : 0 < max profile.maxTimeoutTries.toNat 1 := by omega
    rw [total]
    exact Nat.mul_pos (Nat.mul_pos some tries) (by decide)
  have few : (course plan s t).made.length ≤ max profile.maxTries.toNat 1 :=
    length_made_le (looks_again_of_follows follows idempotent s t)
  refine ⟨total, fun k made kth => ?_, fun k made kth => ?_, fun k made kth => ?_,
    fun made _ => toNat_micros _⟩
  · obtain ⟨number, _⟩ := numbered_of_made plan.source.budget {} s t k made kth
    have inside := (List.getElem?_eq_some_iff.mp kth).1
    have tries := profile.maxTries.toNat_lt
    exact ⟨number.trans (Nat.zero_add k), by omega⟩
  · obtain ⟨left, same, given⟩ := kept.given k made kth
    have before : (course plan s t).spent k < plan.source.budget.timeLeft.nanoseconds := by
      cases k with
      | zero => exact positive
      | succ k => exact kept.before k (List.getElem?_eq_some_iff.mp kth).1
    exact ⟨left, _, by omega, by omega, given, Duration.scale_cases _ usable⟩
  · obtain ⟨_, tries, time⟩ := numbered_of_made plan.source.budget {} s t k made kth
    exact ⟨by rw [tries, follows.tries], time⟩

end Attempt

namespace Service

-- No latency up to this many microseconds can break a window.
def Withstands (s : Service) (most : Nat) : Prop :=
  ∀ w ∈ s.servers.map (·.latencies), w.Withstands most

variable {s : Service} {most : Nat}

theorem Withstands.congr (stands : s.Withstands most) {s' : Service}
    (same : s'.servers.map (·.latencies) = s.servers.map (·.latencies)) : s'.Withstands most :=
  fun w member => stands w (same ▸ member)

theorem withstands_of_found (stands : s.Withstands most) {entry : Entry} {server : Server}
    (found : s.serverOf? entry = some server) : server.latencies.Withstands most := by
  obtain ⟨there, _⟩ := serverOf?_eq_some_iff.mp found
  exact stands _ (List.mem_map_of_mem (List.mem_of_getElem? there))

theorem withstands_release (stands : s.Withstands most) (now : Instant) (profile : String)
    (entry : Entry) (isError : Bool) {micros : UInt64} (le : micros.toNat ≤ most) :
    (s.release now profile entry isError micros true).1.Withstands most := by
  cases found : s.serverOf? entry with
  | none =>
    rw [release_of_none found]
    exact stands
  | some server =>
    rw [release_adaptive found]
    intro w member
    have member : w ∈ (s.servers.map (·.latencies)).set entry.index
        (server.recordOutcome isError micros).latencies := by
      rw [← List.map_set]
      exact member
    cases List.mem_or_eq_of_mem_set member with
    | inl kept => exact stands w kept
    | inr new =>
      rw [new]
      exact Server.withstands_recordOutcome (withstands_of_found stands found) isError le

theorem breakdown?_of_withstands (stands : s.Withstands most) (entry : Entry) (isError : Bool)
    {micros : UInt64} (le : micros.toNat ≤ most) :
    s.breakdown? entry isError micros true = none := by
  cases isError with
  | true => exact breakdown?_of_error ..
  | false =>
    cases found : s.serverOf? entry with
    | none => simp [breakdown?, found]
    | some server =>
      have kept := (withstands_of_found stands found).record le
      simp [breakdown?, Server.breakdown?, found, kept.unbroken]

-- With latencies up to this many microseconds neither a draw nor a window leaves its words.
structure Endures (s : Service) (most : Nat) : Prop where
  draws : s.enabled = true → s.eligible.length ≤ 1 ∨ s.drawWeights.sum < 2 ^ 64
  windows : s.Withstands most

end Service

namespace ServiceScene

variable {adaptive : Bool} {most : Nat} {scene : ServiceScene}

-- Nothing has broken off, and of an adaptive request nothing can when a latency is recorded.
structure Unbroken (adaptive : Bool) (most : Nat) (scene : ServiceScene) : Prop where
  sound : scene.broken = none
  windows : adaptive = true → scene.service.Withstands most

-- Neither can an order that is still to be drawn.
structure HoldsOut (adaptive : Bool) (most : Nat) (scene : ServiceScene) : Prop
    extends Unbroken adaptive most scene where
  draws : adaptive = true → scene.order = none → scene.service.enabled = true →
    scene.service.eligible.length ≤ 1 ∨ scene.service.drawWeights.sum < 2 ^ 64

structure Drawn (adaptive : Bool) (most : Nat) (scene : ServiceScene) : Prop
    extends Unbroken adaptive most scene where
  order : adaptive = true → scene.order ≠ none

theorem holdsOut_of_drawn (drawn : scene.Drawn adaptive most) : scene.HoldsOut adaptive most :=
  ⟨drawn.toUnbroken, fun mixed none => absurd none (drawn.order mixed)⟩

theorem broken_withOrder (holds : scene.HoldsOut true most) (enabled : scene.service.enabled = true)
    (tries : Nat) : (scene.withOrder tries).2.broken = none := by
  cases order : scene.order with
  | some entries =>
    simp only [withOrder, order]
    exact holds.sound
  | none =>
    have fits := holds.draws rfl order enabled
    obtain ⟨drawn, went⟩ :=
      (Service.acquireAdaptive_ok_iff Words.below tries scene.words).mpr (.inr fits)
    rw [withOrder_of_drawn scene order went]
    exact holds.sound

theorem drawn_of_resolve (holds : scene.HoldsOut adaptive most) (tries : Nat) (request : Request) :
    let looked := resolve adaptive tries request scene
    looked.2.1.Unbroken adaptive most ∧
      ∀ target, looked.1 = .ok target → looked.2.1.Drawn adaptive most := by
  intro looked
  cases enabled : scene.service.enabled with
  | false =>
    have refused : looked = (.error .noAvailableServers, scene, []) := by
      simp only [looked, resolve, enabled, Bool.not_false, if_true]
    rw [refused]
    exact ⟨holds.toUnbroken, by simp⟩
  | true =>
    cases adaptive with
    | true =>
      have left : looked.2.1 = (scene.nextAdaptive tries).2 := by
        simp only [looked, resolve, enabled, Bool.not_true, Bool.false_eq_true, if_false, if_true]
        split <;> rfl
      have kept : (scene.nextAdaptive tries).2.service = scene.service := service_nextAdaptive ..
      have drawn : looked.2.1.Drawn true most := by
        rw [left]
        refine ⟨⟨broken_withOrder holds enabled tries, fun mixed => ?_⟩,
          fun _ => Option.some_ne_none _⟩
        rw [kept]
        exact holds.windows mixed
      exact ⟨drawn.toUnbroken, fun _ _ => drawn⟩
    | false =>
      have sound : looked.2.1.broken = none := by
        simp only [looked, resolve, enabled, nextStatic, Bool.not_true, Bool.false_eq_true,
          if_false]
        split <;> exact holds.sound
      have unbroken : looked.2.1.Unbroken false most :=
        ⟨sound, fun mixed => absurd mixed Bool.false_ne_true⟩
      exact ⟨unbroken, fun _ _ => ⟨unbroken, fun mixed => absurd mixed Bool.false_ne_true⟩⟩

theorem unbroken_released (unbroken : scene.Unbroken adaptive most) (name : String) (entry : Entry)
    (isError : Bool) {micros : UInt64} (le : adaptive = true → micros.toNat ≤ most) :
    (scene.released name entry isError micros adaptive).1.Unbroken adaptive most := by
  cases adaptive with
  | true =>
    have windows := unbroken.windows rfl
    have still := Service.breakdown?_of_withstands windows entry isError (le rfl)
    refine ⟨?_, fun _ => Service.withstands_release windows scene.clock name entry isError (le rfl)⟩
    show scene.broken.or (scene.service.breakdown? entry isError micros true) = none
    rw [still, unbroken.sound]
    rfl
  | false =>
    refine ⟨?_, fun mixed => absurd mixed Bool.false_ne_true⟩
    show scene.broken.or none = none
    rw [unbroken.sound]
    rfl

end ServiceScene

namespace Attempt

section

-- A request over a service, whose answers come in within so many microseconds.
variable {τ : Type} {plan : Plan ServiceScene τ Suspension} {name : String} {adaptive : Bool}
  (serves : plan.source.Serves name adaptive) {most : Nat}
  (bounded : adaptive = true → ∀ call t, (plan.send call t).1.result.elapsed.micros.toNat ≤ most)

include serves bounded

theorem drawn_make (budget : Budget) (progress : Progress) (target : Target) {scene : ServiceScene}
    (t : τ) (drawn : scene.Drawn adaptive most) :
    (make plan budget progress target scene t).source.Drawn adaptive most := by
  refine holds_make budget progress target t ?_ ?_ ?_ ?_ ?_ drawn
  · intro target scene drawn
    rw [serves.started]
    exact drawn
  · intro pause scene drawn
    rw [serves.passed]
    refine ⟨⟨drawn.sound, fun mixed => ?_⟩, drawn.order⟩
    exact (drawn.windows mixed).congr (Service.map_wake (fun _ => rfl) ..)
  · intro result scene same drawn
    rw [serves.completed]
    unfold ServiceScene.completed
    split
    · exact drawn
    · refine ⟨ServiceScene.unbroken_released drawn.toUnbroken name _ _ fun mixed => ?_, drawn.order⟩
      rw [same]
      exact bounded mixed _ t
  · intro response idempotent scene drawn
    obtain ⟨allowed, kept⟩ := serves.mayRetry response idempotent scene
    rw [kept]
    exact drawn
  · intro target again scene drawn
    rw [serves.decided]
    unfold ServiceScene.decided
    split
    · exact ⟨⟨drawn.sound, drawn.windows⟩, drawn.order⟩
    · exact drawn

theorem unbroken_start {scene : ServiceScene} (t : τ) (first : scene.HoldsOut adaptive most) :
    (start plan scene t).source.broken = none := by
  let h := course plan scene t
  obtain ⟨tries, resolve⟩ := serves.resolve
  have drawn (k : Nat) (made) (kth : h.made[k]? = some made)
      (holds : (h.before scene k).HoldsOut adaptive most) : made.source.Drawn adaptive most := by
    obtain ⟨budget, progress, target, scene', notes, t', found, rfl⟩ :=
      look_of_made _ _ _ _ k made kth
    have looked := (ServiceScene.drawn_of_resolve holds tries plan.request).2
    rw [resolve] at found
    rw [found] at looked
    exact drawn_make serves bounded budget progress target t' (looked target rfl)
  have looks : ∀ k, k < h.looks → (h.before scene k).HoldsOut adaptive most :=
    before_induction (fun _ scene => scene.HoldsOut adaptive most) first
      fun k made kth _ holds => ServiceScene.holdsOut_of_drawn (drawn k made kth holds)
  refine holds_run (fun scene : ServiceScene => scene.broken = none) (fun response refused => ?_)
    fun k made kth => ?_
  · rw [resolve]
    exact (ServiceScene.drawn_of_resolve (looks _ (lt_looks_of_refusal refused)) tries
      plan.request).1.sound
  · exact (drawn k made kth (looks k (lt_looks_of_made kth))).sound

end

end Attempt

namespace ClientState

variable {τ : Type} {state : ClientState} {options : RequestOptions} {request : Request}
  {host : String} {service : Service}

theorem execute_of_found (named : request.host = some host)
    (found : state.registry.find? host = some service) (external : Profile) (send : Transport τ)
    (t : τ) : state.execute external options request send t
      = state.toService (Registry.withoutScheme host) service options request send t := by
  simp only [execute, named, found]

theorem served_of_unbroken {name : String} {run : Attempt.Run ServiceScene τ Suspension}
    (sound : run.source.broken = none) : ∃ outcome, state.served name run = .ok outcome := by
  unfold served
  rw [sound]
  exact ⟨_, rfl⟩

theorem toService_of_total_none {name : String} {send : Transport τ} {t : τ}
    (none : (service.profile options.profile).totalTimeout? = none) :
    state.toService name service options request send t = .error .totalTimeout := by
  refine toService_none ?_ name send t
  rw [Source.ofService?, none]
  rfl

theorem toService_of_total_some {name : String} {send : Transport τ} {t : τ} {total : Duration}
    (fits : (service.profile options.profile).totalTimeout? = some total) {most : Nat}
    (endures : options.adaptive = true → service.Endures most ∧
      ∀ call t, (send call t).1.result.elapsed.micros.toNat ≤ most) :
    ∃ outcome, state.toService name service options request send t = .ok outcome := by
  obtain ⟨src, made⟩ :
      ∃ src, Source.ofService? service options.profile options.adaptive = some src := by
    rw [Source.ofService?, fits]
    exact ⟨_, rfl⟩
  rw [toService_some made]
  have first : (state.sceneOf service).HoldsOut options.adaptive most :=
    ⟨⟨rfl, fun mixed => (endures mixed).1.windows⟩, fun mixed _ => (endures mixed).1.draws⟩
  exact served_of_unbroken (Attempt.unbroken_start (Source.serves_of_made made)
    (fun mixed => (endures mixed).2) t first)

end ClientState

namespace Attempt

-- What arithmetic comes to in the requests over a service under a profile that it is kept to.
structure ComputesOver (profile : Profile) (options : RequestOptions) (service : Service) :
    Prop where
  alone : ∀ {τ : Type} (send : Transport τ) (context : Context) (request : Request)
    (factor : Binary64) (src : Source ServiceScene Suspension) (scene : ServiceScene) (t : τ),
    Source.ofService? service options.profile options.adaptive = some src →
    Computes profile ⟨src, send, context, request,
      request.isIdempotent options.forceIdempotence, usableFactor factor⟩ scene t
  among : ∀ {ω τ : Type} (others : Others ω) (send : Transport τ) (context : Context)
    (request : Request) (factor : Binary64) (src : Source ServiceScene Suspension)
    (s : ServiceScene × ω) (t : τ),
    Source.ofService? service options.profile options.adaptive = some src →
    Computes profile ⟨src.among others, send, context, request,
      request.isIdempotent options.forceIdempotence, usableFactor factor⟩ s t
  -- a total time that is no duration breaks every request off
  breaks : ∀ {τ : Type} (state : ClientState) (external : Profile) (request : Request)
    (host : String) (send : Transport τ) (t : τ), request.host = some host →
    state.registry.find? host = some service → 2 ^ 64 * 1000 ≤ profile.totalMs →
    state.execute external options request send t = .error .totalTimeout
  -- and otherwise a request comes to a response, an adaptive one over a service that endures it
  answers : ∀ {τ : Type} (state : ClientState) (external : Profile) (request : Request)
    (host : String) (send : Transport τ) (t : τ) (most : Nat), request.host = some host →
    state.registry.find? host = some service → profile.totalMs < 2 ^ 64 * 1000 →
    (options.adaptive = true → service.Endures most ∧
      ∀ call t, (send call t).1.result.elapsed.micros.toNat ≤ most) →
    ∃ outcome, state.execute external options request send t = .ok outcome

-- The same for the file that the profile stands in.
structure ComputesIn (config : ConfigFile) (entry : ServiceEntry) (options : RequestOptions) :
    Prop where
  factor : config.settings.timeoutFactor.isFactor ∨
    config.settings.timeoutFactor = .infinite false
  total : (entry.profile options.profile).totalTimeout? = none ↔
    2 ^ 64 * 1000 ≤ (entry.profile options.profile).totalMs
  century : (entry.profile options.profile).requestTimeoutMs.toNat < 2 ^ 32 * 1000 →
    (entry.profile options.profile).totalMs < 2 ^ 64 * 1000
  requests : ∀ service : Service, service.profiles = Service.withDefault entry.profiles →
    ComputesOver (entry.profile options.profile) options service

theorem arithmetic_of_accepted {config : ConfigFile} (accepted : config.faults = [])
    {name : String} {entry : ServiceEntry} (listed : config.services.get? name = some entry)
    (options : RequestOptions) : ComputesIn config entry options := by
  have sound := config.faults_profile_of_entry accepted listed options.profile
  have total := (entry.profile options.profile).totalTimeout?_eq_none_iff
  refine ⟨config.factor_of_accepted accepted, total, Profile.totalMs_lt, fun service profiles => ?_⟩
  have same := Service.profile_of_entry profiles options.profile
  refine ⟨?alone, ?among, ?breaks, ?answers⟩
  case alone =>
    intro τ send context request factor src scene t made
    have times := times_ofService made
    have follows := follows_ofService made
    rw [same] at times follows
    exact computes_of_times sound times follows rfl (isFactor_usableFactor factor) scene t
  case among =>
    intro ω τ others send context request factor src s t made
    have times := times_ofService made
    have follows := follows_ofService made
    rw [same] at times follows
    exact computes_of_times sound ⟨times.total, times.request⟩ (follows_among follows others) rfl
      (isFactor_usableFactor factor) s t
  case breaks =>
    intro τ state external request host send t named found beyond
    rw [ClientState.execute_of_found named found]
    refine ClientState.toService_of_total_none ?_
    rw [same]
    exact total.mpr beyond
  case answers =>
    intro τ state external request host send t most named found below endures
    obtain ⟨time, fits⟩ : ∃ time, (service.profile options.profile).totalTimeout? = some time := by
      rw [same]
      exact Option.ne_none_iff_exists'.mp (mt total.mp (Nat.not_le.mpr below))
    rw [ClientState.execute_of_found named found]
    exact ClientState.toService_of_total_some fits endures

-- One service whose profile allows so many timeouts of 2^53 seconds, and the registry of the file.
def longTimeouts (tries : UInt32) : ConfigFile :=
  let profile : Profile := { requestTimeoutMs := 9007199254740992000, maxTimeoutTries := tries }
  { services := .ofList [("shop", {
      profiles := .ofList [("default", profile)]
      servers := [{ address := "a:80" }] })] }

def loaded (config : ConfigFile) : Registry :=
  ((Registry.create config.settings).update (FileDirectory.create config).directory
    config.services.keys).registry

theorem request_with_long_timeouts :
    let config := longTimeouts 2047
    let get : Request := { method := "GET", uri := ⟨some "http", some "shop", some .root⟩ }
    let send : Transport Unit := fun _ _ => (⟨⟨{ status := 200 }, .zero⟩, 0⟩, ())
    config.faults = [] ∧ ((config.services.get? "shop").map fun entry =>
      (entry.profile "default").totalMs) = some 18437736874454810624000 ∧
      ∃ outcome, (ClientState.mk (loaded config) default).execute .standard {} get send ()
        = .ok outcome := by
  intro config get send
  have facts : config.faults = [] ∧ (config.services.get? "shop").isSome ∧
      ((loaded config).find? "shop").isSome ∧ get.host = some "shop" ∧
      ((loaded config).find? "shop").map (·.profiles)
        = (config.services.get? "shop").map fun entry => Service.withDefault entry.profiles := by
    decide +kernel +revert
  have total : ((config.services.get? "shop").map fun entry =>
      (entry.profile "default").totalMs) = some 18437736874454810624000 := by
    decide +kernel +revert
  obtain ⟨accepted, listed, registered, named, kept⟩ := facts
  obtain ⟨entry, listed⟩ := Option.isSome_iff_exists.mp listed
  obtain ⟨service, found⟩ := Option.isSome_iff_exists.mp registered
  rw [listed, found, Option.map_some, Option.map_some, Option.some.injEq] at kept
  have same := total
  rw [listed, Option.map_some, Option.some.injEq] at same
  have computes := (arithmetic_of_accepted accepted listed {}).requests service kept
  have below : (entry.profile "default").totalMs < 2 ^ 64 * 1000 := by
    rw [same]
    norm_num
  exact ⟨accepted, total, computes.answers ⟨loaded config, default⟩ .standard get "shop" send () 0
    named found below fun mixed => absurd mixed Bool.false_ne_true⟩

-- Once more makes 2^64 seconds, one more than a duration has.
theorem request_without_total :
    let config := longTimeouts 2048
    let get : Request := { method := "GET", uri := ⟨some "http", some "shop", some .root⟩ }
    config.faults = [] ∧ ((config.services.get? "shop").map fun entry =>
      ((entry.profile "default").totalMs, (entry.profile "default").totalTimeout?))
        = some (18446744073709551616000, none) ∧
      ∀ {τ : Type} (words : Words) (send : Transport τ) (t : τ),
        (ClientState.mk (loaded config) words).execute .standard {} get send t
          = .error .totalTimeout := by
  intro config get
  have facts : config.faults = [] ∧ ((config.services.get? "shop").map fun entry =>
        ((entry.profile "default").totalMs, (entry.profile "default").totalTimeout?))
          = some (18446744073709551616000, none) ∧
      ((loaded config).find? "shop").map (fun s => (s.profile "default").totalTimeout?)
        = some none ∧
      get.host = some "shop" := by
    decide +kernel +revert
  obtain ⟨accepted, total, registered, named⟩ := facts
  refine ⟨accepted, total, fun words send t => ?_⟩
  obtain ⟨service, found, none⟩ := Option.map_eq_some_iff.mp registered
  have state : (ClientState.mk (loaded config) words).registry.find? "shop" = some service := found
  rw [ClientState.execute_of_found named state]
  exact ClientState.toService_of_total_none none

end Attempt

end Balancing
