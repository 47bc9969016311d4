import Balancing.Config.Decode
import Balancing.Config.Validation
import Balancing.Document.Toml

namespace Balancing

inductive LoadError where
  | unreadable
  | malformed (message : Option String)
  | invalid (faults : List ConfigFault)
  deriving DecidableEq, Repr

def LoadError.message : LoadError → Option String
  | unreadable => none
  | malformed message => message
  | invalid faults => some ("Validation failed: " ++ ", ".intercalate (faults.map (·.message)))

namespace ConfigFile

def check (c : ConfigFile) : Except LoadError ConfigFile :=
  match c.faults with
  | [] => .ok c
  | faults => .error (.invalid faults)

def parse (text : String) : Except LoadError ConfigFile :=
  match Toml.parse? text with
  | none => .error (.malformed none)
  | some v =>
    match Decode.file false v with
    | .error e => .error (.malformed e.message)
    | .ok c => check c

def load (bytes : Option ByteArray) : Except LoadError ConfigFile :=
  match bytes.bind String.fromUTF8? with
  | none => .error .unreadable
  | some text => parse text

end ConfigFile

end Balancing
