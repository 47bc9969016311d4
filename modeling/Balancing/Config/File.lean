import Balancing.Config.Profile

namespace Balancing

structure ServerSpec where
  address : String
  weight : UInt32 := 1
  rack : Option String := none
  datacenter : Option String := none
  deriving DecidableEq, Inhabited, Repr

structure Settings where
  datacenter : Option String := none
  allowCrossDc : Bool := false
  allowedDegradation : Binary64 := .ofRatio false 1 2
  skipWithoutLocal : Bool := false
  failOnIgnored : Bool := false
  timeoutFactor : Binary64 := .one
  allowExternal : Bool := true
  deriving DecidableEq, Inhabited, Repr

structure ServiceEntry where
  enabled : Bool := true
  profiles : Profiles := .empty
  servers : List ServerSpec := []
  deriving DecidableEq, Inhabited, Repr

structure Observability where
  logLevel : String := "info"
  logJson : Bool := false
  metricsEnabled : Bool := false
  metricsAddress : String := "0.0.0.0:9090"
  deriving DecidableEq, Inhabited, Repr

structure ConfigFile where
  settings : Settings := {}
  services : SortedMap String ServiceEntry := .empty
  observability : Observability := {}
  deriving DecidableEq, Inhabited, Repr

end Balancing
