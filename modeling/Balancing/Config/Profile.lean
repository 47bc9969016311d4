import Balancing.Retry.Policy

namespace Balancing

structure Profile where
  maxTries : UInt32 := 2
  maxTimeoutTries : UInt32 := 1
  maxFails : UInt32 := 1
  failTimeoutMs : UInt64 := 10000
  connectTimeoutMs : UInt64 := 200
  requestTimeoutMs : UInt64 := 2000
  slowStartSeconds : UInt64 := 0
  retryPolicy : Policy := .standard
  deriving DecidableEq, Repr

namespace Profile

def defaultName : String := "default"

def standard : Profile := {}

instance : Inhabited Profile := ⟨standard⟩

def failTimeout (p : Profile) : Duration := .ofMillis p.failTimeoutMs

def connectTimeout (p : Profile) : Duration := .ofMillis p.connectTimeoutMs

def requestTimeout (p : Profile) : Duration := .ofMillis p.requestTimeoutMs

def slowStart (p : Profile) : Duration := .ofSeconds p.slowStartSeconds

-- The time that one request may take over all its attempts.
-- A number of timeouts that does not fit a duration has no total.
def totalTimeout? (p : Profile) : Option Duration :=
  p.requestTimeout.times? (max p.maxTimeoutTries.toNat 1)

end Profile

abbrev Profiles := SortedMap String Profile

end Balancing
