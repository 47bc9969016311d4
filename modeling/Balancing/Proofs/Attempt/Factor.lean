import Balancing.Proofs.Attempt.Arithmetic
import Balancing.Proofs.Config.Violations
import Balancing.Proofs.Registry.Operation

namespace Balancing

-- What the registry makes of a factor that the check has let through.
def ConfigFile.factorInUse (c : ConfigFile) : Binary64 :=
  if c.settings.timeoutFactor = .infinite false then .one else c.settings.timeoutFactor

-- The product with a factor that is not looked at.
def Duration.scaledBy (d : Duration) (factor : Binary64) : Duration :=
  (nearest? ((inSeconds d.nanoseconds).mul factor)).getD d

theorem usableFactor_of_isFactor {factor : Binary64} (usable : factor.isFactor) :
    usableFactor factor = factor := if_pos usable

theorem Duration.scale_of_isFactor (d : Duration) {factor : Binary64} (usable : factor.isFactor) :
    d.scale factor = d.scaledBy factor := if_pos usable

theorem ConfigFile.factor_created {config : ConfigFile} (accepted : config.faults = []) :
    (Registry.create config.settings).settings.timeoutFactor = config.factorInUse := by
  show usableFactor config.settings.timeoutFactor = _
  unfold factorInUse
  rcases config.factor_of_accepted accepted with usable | infinite
  · have finite : config.settings.timeoutFactor ≠ .infinite false := fun infinite => by
      rw [infinite] at usable
      cases usable
    rw [if_neg finite]
    exact usableFactor_of_isFactor usable
  · rw [if_pos infinite, infinite]
    rfl

theorem ConfigFile.isFactor_factorInUse {config : ConfigFile} (accepted : config.faults = []) :
    config.factorInUse.isFactor := by
  rw [← factor_created accepted]
  exact isFactor_usableFactor _

namespace Attempt

variable {σ τ ε : Type}

-- The factor comes to every attempt, and no judgement of it there makes a difference.
structure TimedBy (factor : Binary64) (plan : Plan σ τ ε) (s : σ) (t : τ) : Prop where
  reaches : plan.factor = factor
  given : ∀ (k : Nat) made, (course plan s t).made[k]? = some made → ∃ budget : Budget,
    budget.timeLeft.nanoseconds
      = plan.source.budget.timeLeft.nanoseconds - (course plan s t).spent k ∧
    made.call.request.timeout
      = some (budget.attemptTimeout plan.source.requestTimeout factor) ∧
    budget.attemptTimeout plan.source.requestTimeout factor
      = (plan.source.requestTimeout.shorter budget.timeLeft).scaledBy factor

theorem timedBy_of_isFactor {plan : Plan σ τ ε} {factor : Binary64} (usable : factor.isFactor)
    (reaches : plan.factor = factor) (s : σ) (t : τ) : TimedBy factor plan s t := by
  subst reaches
  refine ⟨rfl, fun k made kth => ?_⟩
  obtain ⟨left, same, given⟩ := given_of_made plan.source.budget {} s t k made kth
  exact ⟨⟨0, left⟩, same, given, Duration.scale_of_isFactor _ usable⟩

end Attempt

namespace ClientState

variable {τ : Type}

-- When a request is spread over a service, and with what source.
structure GoesOver (s : ClientState) (options : RequestOptions) (request : Request) (host : String)
    (service : Service) (src : Source ServiceScene Suspension) : Prop where
  named : request.host = some host
  found : s.registry.find? host = some service
  made : Source.ofService? service options.profile options.adaptive = some src

-- When it is sent to the host that it names.
structure GoesOut (s : ClientState) (external : Profile) (request : Request) (host : String)
    (src : Source Instant Suspension) : Prop where
  named : request.host = some host
  missing : s.registry.find? host = none
  allowed : s.registry.settings.allowExternal = true
  made : Source.external? request external = some src

-- Every request is executed by attempts that are timed by the factor, or by none at all.
structure TimesBy (factor : Binary64) (s : ClientState) : Prop where
  overService {τ : Type} (external : Profile) {options : RequestOptions} {request : Request}
    {host : String} {service : Service} {src : Source ServiceScene Suspension}
    (goes : s.GoesOver options request host service src) (send : Transport τ) (t : τ) :
    let plan := servicePlan service options request send factor src
    let scene := s.sceneOf service
    s.execute external options request send t
      = s.served (Registry.withoutScheme host) (Attempt.start plan scene t) ∧
    Attempt.TimedBy factor plan scene t ∧
    ∀ {ω : Type} (others : Others ω) (w : ω),
      Attempt.TimedBy factor (servicePlan service options request send factor (src.among others))
        (scene, w) t
  toHost {τ : Type} {external : Profile} (options : RequestOptions) {request : Request}
    {host : String} {src : Source Instant Suspension} (goes : s.GoesOut external request host src)
    (send : Transport τ) (t : τ) :
    let plan := externalPlan options request send factor src
    s.execute external options request send t
      = .ok (s.sentOut (Attempt.start plan s.registry.clock t)) ∧
    Attempt.TimedBy factor plan s.registry.clock t
  otherwise {τ : Type} {external : Profile} {options : RequestOptions} {request : Request}
    (notOver : ∀ host service src, ¬s.GoesOver options request host service src)
    (notOut : ∀ host src, ¬s.GoesOut external request host src) (send : Transport τ) (t : τ) :
    s.execute external options request send t = .error .totalTimeout ∨
    s.execute external options request send t = .ok (s.answer t .noService)

section

variable {s : ClientState} {options : RequestOptions} {request : Request} {host : String}
  {service : Service} {external : Profile}

theorem execute_of_goesOver {src : Source ServiceScene Suspension}
    (goes : s.GoesOver options request host service src) (external : Profile) (send : Transport τ)
    (t : τ) : s.execute external options request send t
      = s.served (Registry.withoutScheme host) (Attempt.start (servicePlan service options request
          send (usableFactor s.registry.settings.timeoutFactor) src) (s.sceneOf service) t) := by
  rw [execute_of_found goes.named goes.found, toService_some goes.made]

theorem execute_of_goesOut {src : Source Instant Suspension}
    (goes : s.GoesOut external request host src) (options : RequestOptions) (send : Transport τ)
    (t : τ) : s.execute external options request send t
      = .ok (s.sentOut (Attempt.start (externalPlan options request send
          (usableFactor s.registry.settings.timeoutFactor) src) s.registry.clock t)) := by
  simp only [execute, goes.named, goes.missing, goes.allowed, if_true]
  rw [toExternal_some goes.made]

theorem execute_otherwise
    (notOver : ∀ host service src, ¬s.GoesOver options request host service src)
    (notOut : ∀ host src, ¬s.GoesOut external request host src) (send : Transport τ) (t : τ) :
    s.execute external options request send t = .error .totalTimeout ∨
    s.execute external options request send t = .ok (s.answer t .noService) := by
  unfold execute
  cases named : request.host with
  | none => exact .inr rfl
  | some host =>
    dsimp only
    cases found : s.registry.find? host with
    | some service =>
      cases made : Source.ofService? service options.profile options.adaptive with
      | none => exact .inl (toService_none made _ send t)
      | some src => exact absurd ⟨named, found, made⟩ (notOver host service src)
    | none =>
      dsimp only
      split
      · rename_i allowed
        cases made : Source.external? request external with
        | none => exact .inl (toExternal_none made send t)
        | some src => exact absurd ⟨named, found, allowed, made⟩ (notOut host src)
      · exact .inr rfl

theorem timesBy_of_usable {factor : Binary64} (used : s.registry.settings.timeoutFactor = factor)
    (usable : factor.isFactor) : s.TimesBy factor := by
  have same : usableFactor s.registry.settings.timeoutFactor = factor := by
    rw [used]
    exact usableFactor_of_isFactor usable
  refine ⟨?_, ?_, execute_otherwise⟩
  · intro τ external options request host service src goes send t plan scene
    refine ⟨?_, Attempt.timedBy_of_isFactor usable rfl _ t, fun others w => ?_⟩
    · rw [execute_of_goesOver goes, same]
    · exact Attempt.timedBy_of_isFactor usable rfl _ t
  · intro τ external options request host src goes send t plan
    refine ⟨?_, Attempt.timedBy_of_isFactor usable rfl _ t⟩
    rw [execute_of_goesOut goes, same]

end

-- The states of a client whose registry was created with these settings.
inductive Reached (settings : Settings) : ClientState → Prop where
  | created (words : Words) : Reached settings ⟨.create settings, words⟩
  | registry {s : ClientState} (before : Reached settings s) (event : Registry.Event) :
    Reached settings { s with registry := s.registry.after event }
  | reloaded {s : ClientState} (before : Reached settings s) (files : FileDirectory)
    (configs : List ConfigFile) :
    Reached settings { s with registry := (s.registry.reload files configs).2.1 }
  | enabled {s : ClientState} (before : Reached settings s) (name : String) (on : Bool) :
    Reached settings { s with registry := s.registry.setEnabled name on }
  | executed {s : ClientState} {τ : Type} (before : Reached settings s) (external : Profile)
    (options : RequestOptions) (request : Request) (send : Transport τ) (t : τ)
    {outcome : Outcome τ} (ended : s.execute external options request send t = .ok outcome) :
    Reached settings outcome.state

theorem settings_reload (r : Registry) (files : FileDirectory) (configs : List ConfigFile) :
    (r.reload files configs).2.1.settings = r.settings := by
  induction configs generalizing r files with
  | nil => rfl
  | cons config configs ih => exact (ih _ _).trans (Registry.settings_updateAll ..)

theorem settings_setEnabled (r : Registry) (name : String) (on : Bool) :
    (r.setEnabled name on).settings = r.settings := by
  unfold Registry.setEnabled
  split <;> rfl

theorem settings_execute {s : ClientState} {external : Profile} {options : RequestOptions}
    {request : Request} {send : Transport τ} {t : τ} {outcome : Outcome τ}
    (ended : s.execute external options request send t = .ok outcome) :
    outcome.state.registry.settings = s.registry.settings := by
  by_cases spread : ∃ host service src, s.GoesOver options request host service src
  · obtain ⟨host, service, src, goes⟩ := spread
    rw [execute_of_goesOver goes, served] at ended
    split at ended
    · cases ended
    · cases ended
      rfl
  by_cases sent : ∃ host src, s.GoesOut external request host src
  · obtain ⟨host, src, goes⟩ := sent
    rw [execute_of_goesOut goes] at ended
    cases ended
    rfl
  · simp only [not_exists] at spread sent
    rcases execute_otherwise spread sent send t with refused | answered
    · rw [refused] at ended
      cases ended
    · rw [answered] at ended
      cases ended
      rfl

theorem settings_of_reached {settings : Settings} {s : ClientState} (reached : Reached settings s) :
    s.registry.settings = (Registry.create settings).settings := by
  induction reached with
  | created => rfl
  | registry before event ih => exact (Registry.settings_after _ event).trans ih
  | reloaded before files configs ih => exact (settings_reload _ files configs).trans ih
  | enabled before name on ih => exact (settings_setEnabled _ name on).trans ih
  | executed before external options request send t ended ih =>
    exact (settings_execute ended).trans ih

theorem validated_factor_reaches_attempts {config : ConfigFile} (accepted : config.faults = []) :
    config.settings.timeoutFactor.AboveZero ∧
    ∀ s : ClientState, Reached config.settings s →
      s.registry.settings.timeoutFactor = config.factorInUse ∧ s.TimesBy config.factorInUse := by
  refine ⟨(ConfigFile.faults_eq_nil_iff.mp accepted).timeoutFactor, fun s reached => ?_⟩
  have used : s.registry.settings.timeoutFactor = config.factorInUse := by
    rw [settings_of_reached reached]
    exact ConfigFile.factor_created accepted
  exact ⟨used, timesBy_of_usable used (ConfigFile.isFactor_factorInUse accepted)⟩

-- One service whose attempts are allowed 2^53 + 1 seconds, which are no binary number.
def oddSeconds (factor : Binary64) : ConfigFile :=
  let profile : Profile := { requestTimeoutMs := 9007199254740993000 }
  { settings := { timeoutFactor := factor }
    services := .ofList [("shop", {
      profiles := .ofList [("default", profile)]
      servers := [{ address := "a:80" }] })] }

def loaded (config : ConfigFile) : ClientState := ⟨Attempt.loaded config, default⟩

theorem reached_loaded (config : ConfigFile) : Reached config.settings (loaded config) :=
  .registry (.created default)
    (.update (FileDirectory.create config).directory config.services.keys)

def timeouts (ended : Except Breakdown (Outcome τ)) : List (Option Duration) :=
  match ended with
  | .ok outcome => (callsOf outcome.log).map (·.request.timeout)
  | .error _ => []

-- One request to the service, answered at once.
def getShop : Request := { method := "GET", uri := ⟨some "http", some "shop", some .root⟩ }

def answering : Transport Unit := fun _ _ => (⟨⟨{ status := 200 }, .zero⟩, 0⟩, ())

theorem half_reaches_attempts :
    let config := oddSeconds (.ofRatio false 1 2)
    config.faults = [] ∧ Reached config.settings (loaded config) ∧
    (loaded config).TimesBy (.ofRatio false 1 2) ∧
    timeouts ((loaded config).execute .standard {} getShop answering ())
      = [some (.ofSeconds 4503599627370496)] := by
  intro config
  have accepted : config.faults = [] := by
    decide +kernel +revert
  have halved : timeouts ((loaded config).execute .standard {} getShop answering ())
      = [some (.ofSeconds 4503599627370496)] := by
    decide +kernel +revert
  have reached := reached_loaded config
  exact ⟨accepted, reached, ((validated_factor_reaches_attempts accepted).2 _ reached).2, halved⟩

-- With infinity the product would be out of range and the time would stay as it is; with one it is
-- rounded.
theorem infinity_reaches_no_attempt :
    let config := oddSeconds (.infinite false)
    config.faults = [] ∧ Reached config.settings (loaded config) ∧
    (loaded config).registry.settings.timeoutFactor ≠ config.settings.timeoutFactor ∧
    ¬(loaded config).TimesBy config.settings.timeoutFactor := by
  intro config
  have accepted : config.faults = [] := by
    decide +kernel +revert
  have replaced : (loaded config).registry.settings.timeoutFactor
      ≠ config.settings.timeoutFactor := by
    decide +kernel +revert
  have rounded : timeouts ((loaded config).execute .standard {} getShop answering ())
      = [some (.ofSeconds 9007199254740992)] := by
    decide +kernel +revert
  have unscaled : (((loaded config).registry.find? "shop").bind fun service =>
      (Source.ofService? service "default" false).map fun src =>
        let plan := servicePlan service {} getShop answering config.settings.timeoutFactor src
        timeouts ((loaded config).served (Registry.withoutScheme "shop")
          (Attempt.start plan ((loaded config).sceneOf service) ())))
      = some [some (.ofSeconds 9007199254740993)] := by
    decide +kernel +revert
  have named : getShop.host = some "shop" := by decide +kernel
  refine ⟨accepted, reached_loaded config, replaced, fun times => ?_⟩
  clear_value config
  obtain ⟨service, found, unscaled⟩ := Option.bind_eq_some_iff.mp unscaled
  obtain ⟨src, made, unscaled⟩ := Option.map_eq_some_iff.mp unscaled
  have goes : (loaded config).GoesOver {} getShop "shop" service src := ⟨named, found, made⟩
  obtain ⟨ended, _⟩ := times.overService .standard goes answering ()
  rw [ended, unscaled] at rounded
  exact absurd rounded (by decide)

end ClientState

end Balancing
