import Balancing.Config.File
import Balancing.Health.ErrorWindow
import Balancing.Health.LatencyWindow
import Balancing.Text

namespace Balancing

inductive ServerError where
  | invalidAddress (address : String)
  | window (e : WindowError)
  deriving DecidableEq, Repr

def ServerError.message : ServerError → String
  | invalidAddress address => "invalid server address '" ++ address ++ "'"
  | window e => e.message

structure Windows where
  errors : Nat := 100
  latencies : Nat := 500
  deriving DecidableEq, Inhabited, Repr

structure SlowStart where
  started : Instant
  interval : Duration
  deriving DecidableEq, Repr

structure Server where
  id : Nat
  address : String
  endpoint : Endpoint
  weight : UInt32
  weight_pos : 0 < weight
  rack : Option String
  datacenter : Option String
  slowStart : Option SlowStart
  active : Bool := true
  requests : UInt32 := 0
  -- Requests ever taken, less whole weights taken off by rescaling.
  statsRequests : UInt32 := 0
  -- Errors since the last success.
  fails : UInt32 := 0
  errors : ErrorWindow
  latencies : LatencyWindow
  deriving DecidableEq

namespace Server

-- The share of outcomes without error that a slow-starting server begins with.
def slowStartLivePercent : Nat := 10

-- A weight of zero counts as one.
def atLeastOne (weight : UInt32) : UInt32 := if weight = 0 then 1 else weight

theorem atLeastOne_pos (weight : UInt32) : 0 < atLeastOne weight := by
  unfold atLeastOne
  split
  · decide
  · exact UInt32.pos_iff_ne_zero.mpr ‹_›

-- A new server; the address is checked before the windows.
def build (id : Nat) (spec : ServerSpec) (windows : Windows) (slowStart : Option SlowStart) :
    Except ServerError Server :=
  match Endpoint.parse? spec.address with
  | none => .error (.invalidAddress spec.address)
  | some endpoint =>
    let livePercent := if slowStart.isSome then slowStartLivePercent else 100
    match ErrorWindow.withLivePercent windows.errors livePercent with
    | .error e => .error (.window e)
    | .ok errors =>
      match LatencyWindow.empty windows.latencies with
      | .error e => .error (.window e)
      | .ok latencies => .ok {
          id
          address := spec.address
          endpoint
          weight := atLeastOne spec.weight
          weight_pos := atLeastOne_pos spec.weight
          rack := spec.rack
          datacenter := spec.datacenter.map Text.lowercase
          slowStart
          errors
          latencies }

-- Whether the server could have been built from `spec`.
def isOf (s : Server) (spec : ServerSpec) : Bool :=
  s.address = spec.address && s.weight = atLeastOne spec.weight && s.rack = spec.rack
    && s.datacenter = spec.datacenter.map Text.lowercase

-- The weight grows in a straight line from one over the interval; no interval, no ramp.
def effectiveWeight (s : Server) (now : Instant) : Nat :=
  match s.slowStart with
  | none => s.weight.toNat
  | some slow =>
    let elapsed := now - slow.started
    if slow.interval.isZero || slow.interval.nanoseconds ≤ elapsed then s.weight.toNat
    else
      let share := (inSeconds elapsed).div (inSeconds slow.interval.nanoseconds)
      max 1 (((Binary64.ofNat s.weight.toNat).mul share).truncate 4294967295)

def acquire (s : Server) : Server :=
  { s with requests := s.requests + 1, statsRequests := s.statsRequests + 1 }

-- A release without an acquire leaves the number in flight at zero.
def release (s : Server) (isError : Bool) : Server :=
  { s with
    requests := if s.requests = 0 then 0 else s.requests - 1
    fails := if isError then s.fails + 1 else 0 }

-- Only successes tell how long the server takes.
def recordOutcome (s : Server) (isError : Bool) (micros : UInt64) : Server :=
  if isError then { s with errors := s.errors.record true }
  else { s with errors := s.errors.record false, latencies := s.latencies.record micros }

-- Why recording the outcome breaks off, if it does.
def breakdown? (s : Server) (isError : Bool) (micros : UInt64) : Option Breakdown :=
  if isError then none else (s.latencies.record micros).broken

def deactivate (s : Server) : Server := { s with active := false }

def activate (s : Server) : Server := { s with active := true, fails := 0 }

-- Takes one weight off the requests ever taken, if there are as many.
def rescale (s : Server) : Server :=
  if s.weight ≤ s.statsRequests then { s with statsRequests := s.statsRequests - s.weight } else s

-- Whether the server lies outside the datacenter; without one every server lies inside.
def isRemote (s : Server) (datacenter : Option String) : Bool :=
  match datacenter with
  | none => false
  | some dc => s.datacenter != some dc

end Server

-- What a choice hands out: the server's place in the list at that time and how to reach it.
structure Entry where
  index : Nat
  address : String
  endpoint : Endpoint
  datacenter : Option String
  rack : Option String
  deriving DecidableEq, Repr

def Entry.of (index : Nat) (s : Server) : Entry :=
  ⟨index, s.address, s.endpoint, s.datacenter, s.rack⟩

end Balancing
