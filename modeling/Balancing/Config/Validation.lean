import Balancing.Config.File
import Balancing.Numbers.Shortest

namespace Balancing

inductive ProfileFault where
  | noTries
  | noRequestTimeout
  | noFailTimeout
  deriving DecidableEq, Repr

def ProfileFault.message : ProfileFault → String
  | noTries => "max_tries must be at least 1"
  | noRequestTimeout => "request_timeout_ms must be positive"
  | noFailTimeout => "fail_timeout_ms must be positive when max_fails is set"

inductive ConfigFault where
  | degradation (part : Binary64)
  | timeoutFactor (factor : Binary64)
  | profile (service profile : String) (fault : ProfileFault)
  | address (service address : String)
  | duplicate (service address : String)
  | zeroWeight (service address : String)
  deriving DecidableEq, Repr

namespace ConfigFault

def aboutServer (service about : String) : String := "upstream '" ++ service ++ "': " ++ about

def message : ConfigFault → String
  | .degradation part => "allowed_degradation_part must be within 0.0..=1.0, got " ++ part.text
  | .timeoutFactor factor => "timeout_multiplier must be positive, got " ++ factor.text
  | .profile service name fault =>
    "upstream '" ++ service ++ "' profile '" ++ name ++ "': " ++ fault.message
  | .address service a => aboutServer service ("invalid server address '" ++ a ++ "'")
  | .duplicate service a => aboutServer service ("server '" ++ a ++ "' listed more than once")
  | .zeroWeight service a => aboutServer service ("server '" ++ a ++ "' has zero weight")

end ConfigFault

def Settings.faults (s : Settings) : List ConfigFault :=
  (if Binary64.zero.le s.allowedDegradation && s.allowedDegradation.le .one then []
    else [.degradation s.allowedDegradation])
  ++ (if s.timeoutFactor.isPositive then [] else [.timeoutFactor s.timeoutFactor])

-- A server that never leaves the rotation needs no time to stay out of it.
def Profile.faults (p : Profile) : List ProfileFault :=
  (if p.maxTries = 0 then [.noTries] else [])
  ++ (if p.requestTimeoutMs = 0 then [.noRequestTimeout] else [])
  ++ (if p.failTimeoutMs = 0 && 0 < p.maxFails then [.noFailTimeout] else [])

def serverFaults (service : String) (seen : List String) : List ServerSpec → List ConfigFault
  | [] => []
  | s :: rest =>
    (if (Endpoint.parse? s.address).isNone then [.address service s.address] else [])
    ++ (if s.weight = 0 then [.zeroWeight service s.address] else [])
    ++ (if s.address ∈ seen then [.duplicate service s.address] else [])
    ++ serverFaults service (s.address :: seen) rest

def ServiceEntry.faults (service : String) (s : ServiceEntry) : List ConfigFault :=
  (s.profiles.entries.flatMap fun (name, p) => p.faults.map (.profile service name))
  ++ serverFaults service [] s.servers

def ConfigFile.faults (c : ConfigFile) : List ConfigFault :=
  c.settings.faults ++ c.services.entries.flatMap fun (name, s) => s.faults name

end Balancing
