import Balancing.Config.File

namespace Balancing

structure Directory where
  servers : String → List ServerSpec
  -- How many servers the service is expected to start with.
  initialSize : String → Option Nat
  -- The profiles of the service, if it is configured at all.
  profiles : String → Option Profiles
  enabled : String → Bool

structure Listing where
  servers : List ServerSpec := []
  profiles : Option Profiles := some .empty
  initialSize : Option Nat := none
  enabled : Bool := true
  deriving DecidableEq, Inhabited

-- The directory of the listed services; what is not listed is enabled and has nothing.
def Directory.ofListings (m : SortedMap String Listing) : Directory where
  servers name := ((m.get? name).map (·.servers)).getD []
  initialSize name := (m.get? name).bind (·.initialSize)
  profiles name := (m.get? name).bind (·.profiles)
  enabled name := ((m.get? name).map (·.enabled)).getD true

-- A directory that does not say which services are enabled, so that all are.
def Directory.allEnabled (d : Directory) : Directory := { d with enabled := fun _ => true }

structure FileDirectory where
  config : ConfigFile
  initialSizes : SortedMap String Nat
  deriving DecidableEq, Inhabited

namespace FileDirectory

-- The first file sets the expected sizes for good.
def create (config : ConfigFile) : FileDirectory :=
  ⟨config, config.services.map (·.servers.length)⟩

def replace (d : FileDirectory) (config : ConfigFile) : FileDirectory := { d with config }

def names (d : FileDirectory) : List String := d.config.services.keys

def directory (d : FileDirectory) : Directory where
  servers name := ((d.config.services.get? name).map (·.servers)).getD []
  initialSize name := d.initialSizes.get? name
  profiles name := (d.config.services.get? name).map (·.profiles)
  enabled name := ((d.config.services.get? name).map (·.enabled)).getD true

end FileDirectory

end Balancing
