import Balancing.Config.File
import Balancing.Document

namespace Balancing

-- Why a value is not a record of settings: its shape is wrong, or a retry policy is refused.
inductive DecodeError where
  | shape
  | policy (e : PolicyError)
  deriving DecidableEq, Repr

def DecodeError.message : DecodeError → Option String
  | shape => none
  | policy e => some e.message

namespace Decode

abbrev Decoded (α : Type) := Except DecodeError α

def boolean : Value → Decoded Bool
  | .boolean b => .ok b
  | _ => .error .shape

def text : Value → Decoded String
  | .text s => .ok s
  | _ => .error .shape

def text? : Value → Decoded (Option String)
  | .null => .ok none
  | .text s => .ok (some s)
  | _ => .error .shape

def natural (bound : Nat) : Value → Decoded Nat
  | .integer i => if 0 ≤ i ∧ i ≤ bound then .ok i.toNat else .error .shape
  | _ => .error .shape

def word32 (v : Value) : Decoded UInt32 := return UInt32.ofNat (← natural 4294967295 v)

def word64 (v : Value) : Decoded UInt64 := return UInt64.ofNat (← natural 18446744073709551615 v)

def number : Value → Decoded Binary64
  | .integer i => .ok (.ofInt i)
  | .number x => .ok x
  | _ => .error .shape

def list {α : Type} (item : Value → Decoded α) : Value → Decoded (List α)
  | .list vs => vs.mapM item
  | _ => .error .shape

def map {α : Type} (item : Value → Decoded α) : Value → Decoded (SortedMap String α)
  | .table fields => fields.foldlM (fun m (name, v) => return m.insert name (← item v)) .empty
  | _ => .error .shape

-- A format decides whether a list may be longer than the record.
def record {α : Type} (exact : Bool) (names : List String)
    (field : α → String → Value → Decoded α) (start : α) : Value → Decoded α
  | .table fields => fields.foldlM (fun r (name, v) => field r name v) start
  | .list vs => do
    let r ← (names.zip vs).foldlM (fun r (name, v) => field r name v) start
    if exact && names.length < vs.length then .error .shape else .ok r
  | _ => .error .shape

def policy (v : Value) : Decoded Policy := do
  match Policy.ofWritten (← map boolean v) with
  | .ok p => .ok p
  | .error e => .error (.policy e)

def profileField (p : Profile) (name : String) (v : Value) : Decoded Profile :=
  match name with
  | "max_tries" => return { p with maxTries := ← word32 v }
  | "max_timeout_tries" => return { p with maxTimeoutTries := ← word32 v }
  | "max_fails" => return { p with maxFails := ← word32 v }
  | "fail_timeout_ms" => return { p with failTimeoutMs := ← word64 v }
  | "connect_timeout_ms" => return { p with connectTimeoutMs := ← word64 v }
  | "request_timeout_ms" => return { p with requestTimeoutMs := ← word64 v }
  | "slow_start_interval_sec" => return { p with slowStartSeconds := ← word64 v }
  | "retry_policy" => return { p with retryPolicy := ← policy v }
  | _ => .ok p

def profile (exact : Bool) : Value → Decoded Profile :=
  record exact ["max_tries", "max_timeout_tries", "max_fails", "fail_timeout_ms",
    "connect_timeout_ms", "request_timeout_ms", "slow_start_interval_sec", "retry_policy"]
    profileField {}

-- The address is the one field that must be there.
def serverField (s : Option String × ServerSpec) (name : String) (v : Value) :
    Decoded (Option String × ServerSpec) :=
  match name with
  | "address" => return (some (← text v), s.2)
  | "weight" => return (s.1, { s.2 with weight := ← word32 v })
  | "rack" => return (s.1, { s.2 with rack := ← text? v })
  | "datacenter" => return (s.1, { s.2 with datacenter := ← text? v })
  | _ => .ok s

def server (exact : Bool) (v : Value) : Decoded ServerSpec := do
  match ← record exact ["address", "weight", "rack", "datacenter"] serverField
      (none, { address := "" }) v with
  | (some address, spec) => .ok { spec with address }
  | (none, _) => .error .shape

def settingsField (s : Settings) (name : String) (v : Value) : Decoded Settings :=
  match name with
  | "datacenter" => return { s with datacenter := ← text? v }
  | "allow_cross_dc" => return { s with allowCrossDc := ← boolean v }
  | "allowed_degradation_part" => return { s with allowedDegradation := ← number v }
  | "skip_update_without_local_dc" => return { s with skipWithoutLocal := ← boolean v }
  | "fail_on_ignored_update" => return { s with failOnIgnored := ← boolean v }
  | "timeout_multiplier" => return { s with timeoutFactor := ← number v }
  | "allow_external_urls" => return { s with allowExternal := ← boolean v }
  | _ => .ok s

def settings (exact : Bool) : Value → Decoded Settings :=
  record exact ["datacenter", "allow_cross_dc", "allowed_degradation_part",
    "skip_update_without_local_dc", "fail_on_ignored_update", "timeout_multiplier",
    "allow_external_urls"] settingsField {}

def serviceField (exact : Bool) (s : ServiceEntry) (name : String) (v : Value) :
    Decoded ServiceEntry :=
  match name with
  | "enabled" => return { s with enabled := ← boolean v }
  | "profiles" => return { s with profiles := ← map (profile exact) v }
  | "servers" => return { s with servers := ← list (server exact) v }
  | _ => .ok s

def service (exact : Bool) : Value → Decoded ServiceEntry :=
  record exact ["enabled", "profiles", "servers"] (serviceField exact) {}

def observabilityField (o : Observability) (name : String) (v : Value) : Decoded Observability :=
  match name with
  | "log_level" => return { o with logLevel := ← text v }
  | "log_json" => return { o with logJson := ← boolean v }
  | "metrics_enabled" => return { o with metricsEnabled := ← boolean v }
  | "metrics_address" => return { o with metricsAddress := ← text v }
  | _ => .ok o

def observability (exact : Bool) : Value → Decoded Observability :=
  record exact ["log_level", "log_json", "metrics_enabled", "metrics_address"]
    observabilityField {}

def fileField (exact : Bool) (c : ConfigFile) (name : String) (v : Value) : Decoded ConfigFile :=
  match name with
  | "balancer" => return { c with settings := ← settings exact v }
  | "upstreams" => return { c with services := ← map (service exact) v }
  | "observability" => return { c with observability := ← observability exact v }
  | _ => .ok c

def file (exact : Bool) : Value → Decoded ConfigFile :=
  record exact ["balancer", "upstreams", "observability"] (fileField exact) {}

end Decode

end Balancing
