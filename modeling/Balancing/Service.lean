import Balancing.Choice.LeastLoaded
import Balancing.Choice.Rescale
import Balancing.Choice.Weighted
import Balancing.Config.Encode

namespace Balancing

-- When a server that left the rotation comes back.
structure Reactivation where
  due : Instant
  server : Nat
  deriving DecidableEq, Repr

-- Notice that a server is out of the rotation for a while.
structure Suspension where
  delay : Duration
  address : String
  deriving DecidableEq, Repr

structure Service where
  name : String
  datacenter : Option String
  allowRemote : Bool
  enabled : Bool := true
  windows : Windows := {}
  profiles : Profiles := .empty
  servers : List Server := []
  -- Servers that an update replaced; nothing but their reactivation reaches them any more.
  retired : List Server := []
  pending : List Reactivation := []
  nextId : Nat := 0
  deriving DecidableEq

namespace Service

-- A service without servers and profiles; datacenters are compared in lower case.
def create (name : String) (datacenter : Option String) (allowRemote : Bool)
    (windows : Windows := {}) : Service :=
  { name, datacenter := datacenter.map Text.lowercase, allowRemote, windows }

def profile? (s : Service) (name : String) : Option Profile :=
  (s.profiles.get? name).or (s.profiles.get? Profile.defaultName)

def profile (s : Service) (name : String) : Profile := (s.profile? name).getD .standard

-- The first element that passes, and the others in their order.
def takeFirst {α : Type} (p : α → Bool) : List α → Option (α × List α)
  | [] => none
  | a :: rest =>
    if p a then some (a, rest)
    else (takeFirst p rest).map fun (found, others) => (found, a :: others)

structure Roster where
  servers : List Server
  -- Servers that no descriptor asked for again.
  left : List Server
  nextId : Nat

-- One server per descriptor, taken from `free` or built.
-- A server that still fits its descriptor is carried over as it is, each at most once.
def roster (windows : Windows) (slowStart : Option SlowStart) :
    (free : List Server) → (nextId : Nat) → List ServerSpec → Except ServerError Roster
  | free, nextId, [] => .ok ⟨[], free, nextId⟩
  | free, nextId, spec :: specs =>
    match takeFirst (·.isOf spec) free with
    | some (s, free) => do
      let r ← roster windows slowStart free nextId specs
      return { r with servers := s :: r.servers }
    | none => do
      let s ← Server.build nextId spec windows slowStart
      let r ← roster windows slowStart free (nextId + 1) specs
      return { r with servers := s :: r.servers }

def withDefault (profiles : Profiles) : Profiles :=
  if profiles.contains Profile.defaultName then profiles
  else profiles.insert Profile.defaultName .standard

-- Only a service that has servers lets new ones start slowly.
def slowStart? (s : Service) (now : Instant) (default : Profile) : Option SlowStart :=
  if !s.servers.isEmpty && 0 < default.slowStartSeconds then some ⟨now, default.slowStart⟩
  else none

-- Replaces profiles and servers together; on an error nothing changes.
def update (s : Service) (now : Instant) (profiles : Profiles) (specs : List ServerSpec) :
    Except ServerError Service := do
  let profiles := withDefault profiles
  let default := (profiles.get? Profile.defaultName).getD .standard
  let r ← roster s.windows (s.slowStart? now default) s.servers s.nextId specs
  return { s with
    profiles
    servers := r.servers
    retired := s.retired ++ r.left
    nextId := r.nextId }

def rescale (s : Service) : Service :=
  { s with servers := Rescale.bothSides s.datacenter s.servers }

def setServer (s : Service) (i : Nat) (server : Server) : Service :=
  { s with servers := s.servers.set i server }

-- Hands out the least loaded server outside the excluded places and counts the request on it.
def acquire (s : Service) (now : Instant) (excluded : List Nat) : Option Entry × Service :=
  match LeastLoaded.select? s.servers excluded s.datacenter s.allowRemote now with
  | none => (none, s)
  | some i =>
    match s.servers[i]? with
    | none => (none, s)
    | some server => (some (.of i server), (s.setServer i server.acquire).rescale)

def eligible (s : Service) : List (Server × Nat) :=
  s.servers.zipIdx.filter fun (server, _) =>
    LeastLoaded.isEligible s.datacenter s.allowRemote server

-- The entries of places among the servers that may serve.
def entriesAt (s : Service) (places : List Nat) : List Entry :=
  let candidates := s.eligible
  places.filterMap fun p => candidates[p]?.map fun (server, i) => Entry.of i server

-- The servers for `count` attempts of an adaptive request, in random order.
-- No counter changes: an adaptive request leaves its traces in the windows only.
def acquireAdaptive {γ : Type} (ticket : UInt64 → γ → UInt64 × γ) (s : Service) (count : Nat)
    (g : γ) : Except Breakdown (List Entry × γ) := do
  let (places, g) ← Weighted.order ticket (s.eligible.map Prod.fst) count g
  .ok (s.entriesAt places, g)

-- The server in an entry's place, if it has the entry's address.
def serverOf? (s : Service) (entry : Entry) : Option Server :=
  match s.servers[entry.index]? with
  | some server => if server.address = entry.address then some server else none
  | none => none

-- Whether a release under the profile takes the server out of the rotation.
def suspends (p : Profile) (released : Server) (isError : Bool) : Bool :=
  isError && 0 < p.maxFails && p.maxFails ≤ released.fails && released.active

def suspend (s : Service) (now : Instant) (i : Nat) (server : Server) (delay : Duration) :
    Service :=
  let s := s.setServer i server.deactivate
  let reactivation : Reactivation := ⟨now + delay.nanoseconds, server.id⟩
  rescale { s with pending := s.pending ++ [reactivation] }

-- Takes an entry back with the outcome of its attempt.
-- Without a server of its address in its place an entry changes nothing.
def release (s : Service) (now : Instant) (profile : String) (entry : Entry) (isError : Bool)
    (micros : UInt64) (adaptive : Bool) : Service × List Suspension :=
  match s.serverOf? entry with
  | none => (s, [])
  | some server =>
    if adaptive then (s.setServer entry.index (server.recordOutcome isError micros), [])
    else
      let released := server.release isError
      let s := s.setServer entry.index released
      match s.profile? profile with
      | none => (s, [])
      | some p =>
        if suspends p released isError then
          (s.suspend now entry.index released p.failTimeout, [⟨p.failTimeout, released.address⟩])
        else (s, [])

-- Why a release breaks off, if it does.
def breakdown? (s : Service) (entry : Entry) (isError : Bool) (micros : UInt64) (adaptive : Bool) :
    Option Breakdown :=
  if adaptive then (s.serverOf? entry).bind (·.breakdown? isError micros) else none

def isDue (now : Instant) (r : Reactivation) : Bool := r.due ≤ now

def reactivate (ids : List Nat) (servers : List Server) : List Server :=
  servers.map fun server => if ids.contains server.id then server.activate else server

def wake (s : Service) (now : Instant) : Service :=
  let ids := (s.pending.filter (isDue now)).map (·.server)
  if ids.isEmpty then s
  else { s with
    servers := reactivate ids s.servers
    retired := reactivate ids s.retired
    pending := s.pending.filter (!isDue now ·) }

end Service

-- For inspection.
def Server.toValue (s : Server) : Value :=
  .table [
    ("address", .text s.address),
    ("weight", .natural s.weight.toNat),
    ("rack", .optionalText s.rack),
    ("datacenter", .optionalText s.datacenter),
    ("active", .boolean s.active),
    ("requests", .natural s.requests.toNat),
    ("stats_requests", .natural s.statsRequests.toNat),
    ("fails", .natural s.fails.toNat),
    ("success_count", .natural s.errors.successes),
    ("too_much_errors", .boolean s.errors.tooManyErrors),
    ("mean_response_time_micros", .optional (fun m => .natural m.toNat) s.latencies.mean?)]

def Service.toValue (s : Service) : Value :=
  .table [
    ("name", .text s.name),
    ("enabled", .boolean s.enabled),
    ("datacenter", .optionalText s.datacenter),
    ("profiles", s.profiles.toValue Profile.toValue),
    ("servers", .list (s.servers.map Server.toValue))]

end Balancing
