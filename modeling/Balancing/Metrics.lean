import Balancing.Numbers.Binary64

namespace Balancing

-- What is told to monitoring.
inductive Report where
  | attempt (service : String) (datacenter : Option String) (server : String) (status : UInt16)
      (micros : UInt64) (final : Bool)
  | retried (service : String) (datacenter : Option String) (server : String) (status : UInt16)
      (firstStatus : UInt16) (count : Nat)
  | updateIgnored (service : String) (datacenter : Option String)
  deriving DecidableEq, Repr

inductive Measure where
  | counter (increment : Nat)
  | histogram (sample : Binary64)
  deriving DecidableEq, Repr

structure Metric where
  name : String
  labels : List (String × String)
  measure : Measure
  deriving DecidableEq, Repr

namespace Report

def attemptLabels (service : String) (datacenter : Option String) (server : String)
    (status : UInt16) : List (String × String) :=
  [("upstream", service), ("datacenter", datacenter.getD ""), ("server", server),
    ("status", toString status.toNat)]

-- Durations are sampled in seconds.
def metrics : Report → List Metric
  | .attempt service datacenter server status micros final =>
    let labels := attemptLabels service datacenter server status
    [⟨"upstream_requests_total", labels ++ [("final", if final then "true" else "false")],
        .counter 1⟩,
      ⟨"upstream_request_duration_seconds", labels,
        .histogram ((Binary64.ofNat micros.toNat).div (.ofNat 1000000))⟩]
  | .retried service datacenter server status firstStatus count =>
    [⟨"upstream_retries_total",
      attemptLabels service datacenter server status
        ++ [("first_status", toString firstStatus.toNat)],
      .counter count⟩]
  | .updateIgnored service datacenter =>
    [⟨"upstream_update_ignored_total",
      [("upstream", service), ("datacenter", datacenter.getD "")], .counter 1⟩]

end Report

end Balancing
