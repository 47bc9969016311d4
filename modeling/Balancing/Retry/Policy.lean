import Balancing.Request
import Balancing.SortedMap
import Balancing.Text

namespace Balancing

structure Policy where
  rules : SortedMap UInt16 Bool
  deriving DecidableEq, Repr

inductive PolicyError where
  | notACode (key : String)
  | outOfRange (code : Nat)
  deriving DecidableEq, Repr

def PolicyError.message : PolicyError → String
  | notACode key => "invalid status code '" ++ key ++ "' in retry policy"
  | outOfRange code => "status code " ++ toString code ++ " out of range in retry policy"

namespace Policy

def empty : Policy := ⟨.empty⟩

instance : Inhabited Policy := ⟨empty⟩

def withRule (p : Policy) (status : UInt16) (always : Bool) : Policy :=
  ⟨p.rules.insert status always⟩

def rule (p : Policy) (status : UInt16) : Option Bool := p.rules.get? status

-- Used where nothing is configured.
def standard : Policy := (empty.withRule Response.transportFailure false).withRule 503 false

-- Without a rule for its status a response is final, unless no connection was made.
def isRetriable (p : Policy) (r : Response) (idempotent : Bool) : Bool :=
  r.isConnectError || match p.rule r.status with
    | some always => always || idempotent
    | none => false

def isServerError (p : Policy) (r : Response) : Bool :=
  r.isConnectError || (p.rule r.status).isSome

-- The status code that a key stands for; blanks around it do not count.
def code (key : String) : Except PolicyError UInt16 :=
  match Text.unsigned? 65535 (Text.trim key.toList) with
  | none => .error (.notACode key)
  | some n => if 100 ≤ n ∧ n ≤ 599 then .ok (UInt16.ofNat n) else .error (.outOfRange n)

-- Keys are taken in their order: the first bad one is reported, and of keys for one code the last
-- counts.
def ofWritten (written : SortedMap String Bool) : Except PolicyError Policy :=
  written.entries.foldlM (fun p (key, always) => return p.withRule (← code key) always) empty

-- The written form: codes in plain decimals.
def written (p : Policy) : SortedMap String Bool :=
  .ofList (p.rules.entries.map fun (status, always) => (toString status.toNat, always))

end Policy

end Balancing
