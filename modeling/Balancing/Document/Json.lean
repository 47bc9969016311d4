import Balancing.Document
import Balancing.Numbers.Shortest
import Balancing.SortedMap

namespace Balancing.Json

def isSpace (c : Char) : Bool :=
  c = ' ' || c = '\t' || c = '\n' || c = '\r'

def skipSpace (cs : List Char) : List Char := cs.dropWhile isSpace

def unit? : Reader Nat
  | a :: b :: c :: d :: rest => do
    let a ← Text.hexDigit? a
    let b ← Text.hexDigit? b
    let c ← Text.hexDigit? c
    let d ← Text.hexDigit? d
    return (((a * 16 + b) * 16 + c) * 16 + d, rest)
  | _ => none

-- A leading surrogate needs its partner right after it.
def escapedUnit? (cs : List Char) : Option (Char × List Char) := do
  let (high, rest) ← unit? cs
  if 0xD800 ≤ high ∧ high < 0xDC00 then
    match rest with
    | '\\' :: 'u' :: rest =>
      let (low, rest) ← unit? rest
      if 0xDC00 ≤ low ∧ low < 0xE000 then
        return (Char.ofNat (0x10000 + (high - 0xD800) * 0x400 + (low - 0xDC00)), rest)
      else none
    | _ => none
  else if 0xDC00 ≤ high ∧ high < 0xE000 then none
  else return (Char.ofNat high, rest)

def simpleEscape? : Char → Option Char
  | '\"' => some '\"'
  | '\\' => some '\\'
  | '/' => some '/'
  | 'b' => some '\x08'
  | 'f' => some '\x0c'
  | 'n' => some '\n'
  | 'r' => some '\r'
  | 't' => some '\t'
  | _ => none

def stringBody (fuel : Nat) (done : List Char) (cs : List Char) : Option (String × List Char) :=
  match fuel, cs with
  | _ + 1, '\"' :: rest => some (String.ofList done.reverse, rest)
  | fuel + 1, '\\' :: 'u' :: rest =>
    match escapedUnit? rest with
    | some (c, rest) => stringBody fuel (c :: done) rest
    | none => none
  | fuel + 1, '\\' :: c :: rest =>
    match simpleEscape? c with
    | some c => stringBody fuel (c :: done) rest
    | none => none
  | fuel + 1, c :: rest =>
    if c.toNat < 0x20 then none else stringBody fuel (c :: done) rest
  | _, _ => none

def digits? (cs : List Char) : Option (List Char × List Char) :=
  let run := cs.takeWhile Char.isDigit
  if run.isEmpty then none else some (run, cs.drop run.length)

-- Minus zero is not a whole number, and neither is one beyond 64 bits.
def numberValue (d : Decimal) : Value :=
  if !d.isWhole then .number d.toBinary
  else if !d.negative && d.size ≤ 18446744073709551615 then .integer d.size
  else if d.negative && 0 < d.size && d.size ≤ 9223372036854775808 then .integer (-d.size)
  else .number d.toBinary

def number? (cs : List Char) : Option (Value × List Char) :=
  let (negative, rest) := Decimal.minus cs
  (Decimal.read? digits? negative rest).map fun (d, rest) => (numberValue d, rest)

mutual

-- A value; `fuel` bounds the nesting and the number of parts.
def value (fuel : Nat) (cs : List Char) : Option (Value × List Char) :=
  match fuel with
  | 0 => none
  | fuel + 1 =>
    match skipSpace cs with
    | 'n' :: 'u' :: 'l' :: 'l' :: rest => some (.null, rest)
    | 't' :: 'r' :: 'u' :: 'e' :: rest => some (.boolean true, rest)
    | 'f' :: 'a' :: 'l' :: 's' :: 'e' :: rest => some (.boolean false, rest)
    | '\"' :: rest => (stringBody (rest.length + 1) [] rest).map fun (s, rest) => (.text s, rest)
    | '[' :: rest =>
      match skipSpace rest with
      | ']' :: rest => some (.list [], rest)
      | rest => (items fuel rest).map fun (vs, rest) => (.list vs, rest)
    | '\x7b' :: rest =>
      match skipSpace rest with
      | '\x7d' :: rest => some (.table [], rest)
      | rest => (fields fuel rest).map fun (fs, rest) =>
          (.table (SortedMap.ofList fs).entries, rest)
    | rest => number? rest

def items (fuel : Nat) (cs : List Char) : Option (List Value × List Char) :=
  match fuel with
  | 0 => none
  | fuel + 1 =>
    match value fuel cs with
    | none => none
    | some (v, rest) =>
      match skipSpace rest with
      | ',' :: rest => (items fuel rest).map fun (vs, rest) => (v :: vs, rest)
      | ']' :: rest => some ([v], rest)
      | _ => none

def fields (fuel : Nat) (cs : List Char) : Option (List (String × Value) × List Char) :=
  match fuel with
  | 0 => none
  | fuel + 1 =>
    match skipSpace cs with
    | '\"' :: rest =>
      match stringBody (rest.length + 1) [] rest with
      | none => none
      | some (name, rest) =>
        match skipSpace rest with
        | ':' :: rest =>
          match value fuel rest with
          | none => none
          | some (v, rest) =>
            match skipSpace rest with
            | ',' :: rest => (fields fuel rest).map fun (fs, rest) => ((name, v) :: fs, rest)
            | '\x7d' :: rest => some ([(name, v)], rest)
            | _ => none
        | _ => none
    | _ => none

end

def parse? (text : String) : Option Value :=
  let cs := text.toList
  match value (2 * cs.length + 2) cs with
  | some (v, rest) => if (skipSpace rest).isEmpty then some v else none
  | none => none

def hexText (n : Nat) : String :=
  let digits := Nat.toDigits 16 n
  String.ofList (List.replicate (4 - digits.length) '0' ++ digits)

def quotedChar (c : Char) : String :=
  if c = '\"' then "\\\"" else if c = '\\' then "\\\\"
  else if c.toNat < 0x20 then "\\u" ++ hexText c.toNat
  else c.toString

def quoted (s : String) : String :=
  "\"" ++ s.toList.foldl (fun done c => done ++ quotedChar c) "" ++ "\""

mutual

-- Numbers that are not whole are written as their shortest decimal; what is no number, as null.
def render : Value → String
  | .null => "null"
  | .boolean b => if b then "true" else "false"
  | .integer i => toString i
  | .number x => if x.isFinite then x.text else "null"
  | .text s => quoted s
  | .list vs => "[" ++ ", ".intercalate (renderItems vs) ++ "]"
  | .table fs => "\x7b" ++ ", ".intercalate (renderFields fs) ++ "\x7d"

def renderItems : List Value → List String
  | [] => []
  | v :: vs => render v :: renderItems vs

def renderFields : List (String × Value) → List String
  | [] => []
  | (name, v) :: fs => (quoted name ++ ": " ++ render v) :: renderFields fs

end

end Balancing.Json
