import Balancing.Attempt

namespace Balancing

-- What a request over a service works on.
structure ServiceScene where
  service : Service
  clock : Instant
  words : Words
  -- Places that have been tried.
  tried : List Nat := []
  -- What is left of the order of an adaptive request, once it has been drawn.
  order : Option (List Entry) := none
  -- Why the request has broken off; what it does from then on is void.
  broken : Option Breakdown := none

namespace ServiceScene

-- What a request starts from.
def opening (service : Service) (clock : Instant) (words : Words) : ServiceScene :=
  { service, clock, words }

-- The order of an adaptive request is drawn at its first attempt.
def withOrder (tries : Nat) (s : ServiceScene) : List Entry × ServiceScene :=
  match s.order with
  | some entries => (entries, s)
  | none =>
    match s.service.acquireAdaptive Words.below tries s.words with
    | .ok (entries, words) => (entries, { s with words })
    | .error e => ([], { s with broken := s.broken.or (some e) })

def nextAdaptive (tries : Nat) (s : ServiceScene) : Option Entry × ServiceScene :=
  let (entries, s) := s.withOrder tries
  (entries.head?, { s with order := some entries.tail })

def nextStatic (s : ServiceScene) : Option Entry × ServiceScene :=
  let (entry, service) := s.service.acquire s.clock s.tried
  (entry, { s with service })

def aim (request : Request) (entry : Entry) : Target :=
  ⟨request.retarget entry.endpoint, some entry, entry.address⟩

-- A disabled service has no server for anybody.
def resolve (adaptive : Bool) (tries : Nat) (request : Request) :
    Noting ServiceScene Suspension (Except Response Target) := fun s =>
  if !s.service.enabled then (.error .noAvailableServers, s, [])
  else
    let (entry, s) := if adaptive then s.nextAdaptive tries else s.nextStatic
    match entry with
    | none => (.error .noAvailableServers, s, [])
    | some entry => (.ok (aim request entry), s, [])

-- The outcome of an attempt is with the service.
def released (profile : String) (entry : Entry) (isError : Bool) (micros : UInt64) (adaptive : Bool)
    (s : ServiceScene) : ServiceScene × List Suspension :=
  let broken := s.broken.or (s.service.breakdown? entry isError micros adaptive)
  let (service, notes) := s.service.release s.clock profile entry isError micros adaptive
  ({ s with service, broken }, notes)

def completed (adaptive : Bool) (profile : String) (target : Target) (result : TimedResponse)
    (isError : Bool) : Noting ServiceScene Suspension Unit := fun s =>
  match target.entry with
  | none => ((), s, [])
  | some entry => ((), s.released profile entry isError result.elapsed.micros adaptive)

-- Time passes for the service, and the servers that are due come back.
-- Also a call that takes no time lets a delay of zero run out.
def passed (pause : Nat) (s : ServiceScene) : ServiceScene :=
  let clock := s.clock + pause
  { s with clock, service := s.service.wake clock }

def decided (target : Target) (again : Bool) : Noting ServiceScene Suspension Unit := fun s =>
  match again, target.entry with
  | true, some entry => ((), { s with tried := entry.index :: s.tried }, [])
  | _, _ => ((), s, [])

end ServiceScene

-- The servers of a service as targets; `none` when the profile's total time is no duration.
def Source.ofService? (service : Service) (profileName : String) (adaptive : Bool) :
    Option (Source ServiceScene Suspension) :=
  let profile := service.profile profileName
  profile.totalTimeout?.map fun total => {
    service := service.name
    datacenter := service.datacenter
    budget := ⟨profile.maxTries.toNat, total⟩
    requestTimeout := profile.requestTimeout
    connectTimeout := some profile.connectTimeout
    resolve := ServiceScene.resolve adaptive (max profile.maxTries.toNat 1)
    started := fun _ s => ((), s, [])
    passed := ServiceScene.passed
    completed := ServiceScene.completed adaptive profileName
    isServerError := profile.retryPolicy.isServerError
    mayRetry := fun response idempotent s =>
      (profile.retryPolicy.isRetriable response idempotent, s, [])
    decided := ServiceScene.decided }

def Request.externalHost (r : Request) : String := r.uri.authority.getD ""

-- The request's own host as the target of every attempt; its state is the clock.
def Source.external? (request : Request) (profile : Profile) :
    Option (Source Instant Suspension) :=
  let host := request.externalHost
  profile.totalTimeout?.map fun total => {
    service := host
    datacenter := none
    budget := ⟨profile.maxTries.toNat, total⟩
    requestTimeout := profile.requestTimeout
    connectTimeout := some profile.connectTimeout
    resolve := fun request s => (.ok ⟨request, none, host⟩, s, [])
    started := fun _ s => ((), s, [])
    passed := fun pause clock => clock + pause
    completed := fun _ _ _ s => ((), s, [])
    isServerError := profile.retryPolicy.isServerError
    mayRetry := fun response idempotent s =>
      (profile.retryPolicy.isRetriable response idempotent, s, [])
    decided := fun _ _ s => ((), s, []) }

def Context.external (request : Request) : Context := ⟨request.externalHost, Profile.defaultName⟩

end Balancing
