import Balancing.Directory
import Balancing.Metrics
import Balancing.Service

namespace Balancing

inductive UpdateError where
  | degraded (service : String) (known received : Nat)
  | noLocalDatacenter (service datacenter : String)
  | server (service : String) (e : ServerError)
  deriving DecidableEq, Repr

namespace UpdateError

def message : UpdateError → String
  | .degraded service known received =>
    "upstream '" ++ service ++ "' update ignored: " ++ toString received
      ++ " servers received, " ++ toString known ++ " known"
  | .noLocalDatacenter service datacenter =>
    "upstream '" ++ service ++ "' update ignored: no server in datacenter '" ++ datacenter ++ "'"
  | .server service e => "upstream '" ++ service ++ "': " ++ e.message

-- Whether the update was refused for safety and not because a server is wrong.
def isRefusal : UpdateError → Bool
  | .server .. => false
  | _ => true

end UpdateError

structure Registry where
  settings : Settings
  services : SortedMap String Service := .empty
  clock : Instant := 0
  deriving DecidableEq

namespace Registry

-- A timeout factor that is not finite and positive counts as one.
def create (settings : Settings) : Registry :=
  { settings := { settings with timeoutFactor := usableFactor settings.timeoutFactor } }

-- The part kept within zero and one; what is no number stays so.
def clampToUnit (part : Binary64) : Binary64 :=
  if part.lt .zero then .zero else if Binary64.one.lt part then .one else part

-- Whether a list of `received` servers falls short of the share of `known` ones to be kept.
def isDegraded (allowed : Binary64) (known received : Nat) : Bool :=
  (Binary64.ofNat received).lt
    ((Binary64.ofNat known).mul (Binary64.one.sub (clampToUnit allowed)))

-- Datacenters are compared up to the case of ASCII letters here.
def hasLocal (datacenter : String) (specs : List ServerSpec) : Bool :=
  specs.any fun spec => match spec.datacenter with
    | some dc => Text.sameAscii dc datacenter
    | none => false

def knownSize (existing : Option Service) (initialSize : Option Nat) : Nat :=
  match existing with
  | some s => if s.servers.isEmpty then initialSize.getD 0 else s.servers.length
  | none => initialSize.getD 0

def check (settings : Settings) (name : String) (known : Nat) (specs : List ServerSpec) :
    Except UpdateError Unit :=
  if isDegraded settings.allowedDegradation known specs.length then
    .error (.degraded name known specs.length)
  else match settings.skipWithoutLocal, settings.datacenter with
    | true, some dc => if hasLocal dc specs then .ok () else .error (.noLocalDatacenter name dc)
    | _, _ => .ok ()

-- Brings one service up to date; a name without profiles and servers is removed.
def updateOne (r : Registry) (d : Directory) (name : String) : Except UpdateError Registry :=
  let specs := d.servers name
  let profiles := d.profiles name
  if profiles.isNone && specs.isEmpty then .ok { r with services := r.services.erase name }
  else
    let existing := r.services.get? name
    match check r.settings name (knownSize existing (d.initialSize name)) specs with
    | .error e => .error e
    | .ok () =>
      let service := existing.getD (.create name r.settings.datacenter r.settings.allowCrossDc)
      match service.update r.clock (profiles.getD .empty) specs with
      | .error e => .error (.server name e)
      | .ok updated =>
        let updated := { updated with enabled := d.enabled name }
        .ok { r with services := r.services.insert name updated }

-- Every name is taken, whatever happened to those before it; the errors come in their order.
def updateAll (r : Registry) (d : Directory) : List String → Registry × List UpdateError
  | [] => (r, [])
  | name :: names =>
    match r.updateOne d name with
    | .ok r => r.updateAll d names
    | .error e =>
      let (r, errors) := r.updateAll d names
      (r, e :: errors)

def refusalReport (settings : Settings) : UpdateError → Option Report
  | .degraded name .. => some (.updateIgnored name settings.datacenter)
  | .noLocalDatacenter name dc => some (.updateIgnored name (some dc))
  | .server .. => none

-- Refusals count as errors only if the settings ask for it.
def firstReported (settings : Settings) (errors : List UpdateError) : Option UpdateError :=
  errors.find? fun e => !e.isRefusal || settings.failOnIgnored

structure Updated where
  registry : Registry
  reports : List Report
  error : Option UpdateError

def update (r : Registry) (d : Directory) (names : List String) : Updated :=
  let (registry, errors) := r.updateAll d names
  ⟨registry, errors.filterMap (refusalReport r.settings), firstReported r.settings errors⟩

-- What stands after the first "://"; all of it when there is none.
def withoutScheme (name : String) : String :=
  if Endpoint.namesScheme name.toList then String.ofList (rest name.toList) else name
where
  rest : List Char → List Char
    | ':' :: '/' :: '/' :: rest => rest
    | _ :: cs => rest cs
    | [] => []

def find? (r : Registry) (name : String) : Option Service := r.services.get? (withoutScheme name)

def names (r : Registry) : List String := r.services.keys

def setService (r : Registry) (name : String) (s : Service) : Registry :=
  { r with services := r.services.insert name s }

def setEnabled (r : Registry) (name : String) (enabled : Bool) : Registry :=
  match r.find? name with
  | some s => r.setService (withoutScheme name) { s with enabled }
  | none => r

def wake (r : Registry) : Registry := { r with services := r.services.map (·.wake r.clock) }

def elapse (r : Registry) (nanoseconds : Nat) : Registry :=
  wake { r with clock := r.clock + nanoseconds }

def mergeNames (a b : List String) : List String :=
  (SortedMap.ofList ((a ++ b).map fun name => (name, ()))).keys

-- Every name of the old or the new file is brought up to date.
def reload (r : Registry) (d : FileDirectory) :
    List ConfigFile → FileDirectory × Registry × List Report
  | [] => (d, r, [])
  | config :: configs =>
    let d := d.replace config
    let updated := r.update d.directory (mergeNames r.names d.names)
    let (d, r, reports) := reload updated.registry d configs
    (d, r, updated.reports ++ reports)

end Registry

end Balancing
