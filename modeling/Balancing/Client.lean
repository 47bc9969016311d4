import Balancing.Attempt.Sources
import Balancing.Registry

namespace Balancing

structure RequestOptions where
  profile : String := Profile.defaultName
  -- A POST may be sent again like any other request.
  forceIdempotence : Bool := false
  -- Servers are drawn by health and latency and not by load.
  adaptive : Bool := false
  deriving DecidableEq, Inhabited

structure ClientState where
  registry : Registry
  words : Words

structure Outcome (τ : Type) where
  response : Response
  log : List (Happening Suspension)
  state : ClientState
  transport : τ

namespace ClientState

variable {τ : Type}

def answer (s : ClientState) (t : τ) (response : Response) : Outcome τ := ⟨response, [], s, t⟩

section

variable {σ : Type} (s : ClientState) (service : Service) (options : RequestOptions)
  (request : Request) (send : Transport τ) (factor : Binary64)

def servicePlan (source : Source σ Suspension) : Attempt.Plan σ τ Suspension where
  source
  send
  context := ⟨service.name, options.profile⟩
  request
  idempotent := request.isIdempotent options.forceIdempotence
  factor

def sceneOf : ServiceScene := .opening service s.registry.clock s.words

-- What is left of a request over a service when its attempts are over.
def served (name : String) (run : Attempt.Run ServiceScene τ Suspension) :
    Except Breakdown (Outcome τ) :=
  match run.source.broken with
  | some e => .error e
  | none => .ok {
      response := run.response
      log := run.log
      state.registry := { s.registry.setService name run.source.service with
        clock := run.source.clock }
      state.words := run.source.words
      transport := run.transport }

def externalPlan (source : Source Instant Suspension) : Attempt.Plan Instant τ Suspension where
  source
  send
  context := .external request
  request
  idempotent := request.isIdempotent options.forceIdempotence
  factor

def sentOut (run : Attempt.Run Instant τ Suspension) : Outcome τ where
  response := run.response
  log := run.log
  state := { s with registry := { s.registry with clock := run.source } }
  transport := run.transport

end

def toService (s : ClientState) (name : String) (service : Service) (options : RequestOptions)
    (request : Request) (send : Transport τ) (t : τ) : Except Breakdown (Outcome τ) :=
  let factor := usableFactor s.registry.settings.timeoutFactor
  (Source.ofService? service options.profile options.adaptive).elim (.error .totalTimeout)
    fun source =>
      let plan := servicePlan service options request send factor source
      s.served name (Attempt.start plan (s.sceneOf service) t)

def toExternal (s : ClientState) (profile : Profile) (options : RequestOptions)
    (request : Request) (send : Transport τ) (t : τ) : Except Breakdown (Outcome τ) :=
  let factor := usableFactor s.registry.settings.timeoutFactor
  (Source.external? request profile).elim (.error .totalTimeout) fun source =>
    let plan := externalPlan options request send factor source
    .ok (s.sentOut (Attempt.start plan s.registry.clock t))

section

variable {s : ClientState} {service : Service} {options : RequestOptions} {request : Request}

theorem toService_none (none : Source.ofService? service options.profile options.adaptive = none)
    (name : String) (send : Transport τ) (t : τ) :
    s.toService name service options request send t = .error .totalTimeout := by
  rw [toService, none]
  rfl

theorem toService_some {source : Source ServiceScene Suspension}
    (made : Source.ofService? service options.profile options.adaptive = some source)
    (name : String) (send : Transport τ) (t : τ) :
    s.toService name service options request send t
      = s.served name (Attempt.start (servicePlan service options request send
          (usableFactor s.registry.settings.timeoutFactor) source) (s.sceneOf service) t) := by
  rw [toService, made]
  rfl

theorem toExternal_none {profile : Profile} (none : Source.external? request profile = none)
    (send : Transport τ) (t : τ) :
    s.toExternal profile options request send t = .error .totalTimeout := by
  rw [toExternal, none]
  rfl

theorem toExternal_some {profile : Profile} {source : Source Instant Suspension}
    (made : Source.external? request profile = some source) (send : Transport τ) (t : τ) :
    s.toExternal profile options request send t
      = .ok (s.sentOut (Attempt.start (externalPlan options request send
          (usableFactor s.registry.settings.timeoutFactor) source) s.registry.clock t)) := by
  rw [toExternal, made]
  rfl

end

def execute (s : ClientState) (externalProfile : Profile) (options : RequestOptions)
    (request : Request) (send : Transport τ) (t : τ) : Except Breakdown (Outcome τ) :=
  match request.host with
  | none => .ok (s.answer t .noService)
  | some host =>
    match s.registry.find? host with
    | some service =>
      s.toService (Registry.withoutScheme host) service options request send t
    | none =>
      if s.registry.settings.allowExternal then
        s.toExternal externalProfile options request send t
      else .ok (s.answer t .noService)

end ClientState

end Balancing
