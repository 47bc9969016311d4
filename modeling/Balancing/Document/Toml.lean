import Balancing.Document.Toml.Lexeme
import Balancing.Document.Toml.Table

namespace Balancing.Toml

-- The one field of the table that a date or time stands for.
def momentKey : String := "$__toml_private_datetime"

def scalar? (cs : List Char) : Option (Value × List Char) :=
  match moment? cs with
  | some rest =>
    let shown := String.ofList (cs.take (cs.length - rest.length))
    some (.table [(momentKey, .text shown)], rest)
  | none => number? cs

mutual

-- `fuel` bounds the parts, `room` the nesting that is left.
def value (fuel room : Nat) (cs : List Char) : Option (Value × List Char) :=
  match fuel with
  | 0 => none
  | fuel + 1 =>
    match cs with
    | '[' :: rest =>
      match room with
      | 0 => none
      | room + 1 =>
        match rest with
        | ']' :: rest => some (.list [], rest)
        | rest => items fuel room [] rest
    | '\x7b' :: rest =>
      match room with
      | 0 => none
      | room + 1 =>
        match skipBlanks rest with
        | '\x7d' :: rest => some (.table [], rest)
        | rest =>
          match pairs fuel room rest with
          | none => none
          | some (ps, rest) =>
            (Fields.addPairs [] ps).map fun fields => (.table (sealFields fields), rest)
    | 't' :: 'r' :: 'u' :: 'e' :: rest => some (.boolean true, rest)
    | 'f' :: 'a' :: 'l' :: 's' :: 'e' :: rest => some (.boolean false, rest)
    | c :: _ =>
      if c = quote || c = apostrophe then (string? cs).map fun (s, rest) => (.text s, rest)
      else scalar? cs
    | [] => none

-- Lines may break between items, and a comma may follow the last one.
def items (fuel room : Nat) (done : List Value) (cs : List Char) : Option (Value × List Char) :=
  match fuel with
  | 0 => none
  | fuel + 1 =>
    match skipLines false cs with
    | none => none
    | some (']' :: rest) => some (.list done.reverse, rest)
    | some rest =>
      match value fuel room rest with
      | none => none
      | some (v, rest) =>
        match skipLines false rest with
        | some (',' :: rest) => items fuel room (v :: done) rest
        | some (']' :: rest) => some (.list (v :: done).reverse, rest)
        | _ => none

-- An inline table stays on its line, and no comma follows its last pair.
def pairs (fuel room : Nat) (cs : List Char) :
    Option (List (List String × Value) × List Char) :=
  match fuel with
  | 0 => none
  | fuel + 1 =>
    match key? cs with
    | some (path, '=' :: rest) =>
      match value fuel room (skipBlanks rest) with
      | none => none
      | some (v, rest) =>
        match skipBlanks rest with
        | ',' :: rest => (pairs fuel room rest).map fun (ps, rest) => ((path, v) :: ps, rest)
        | '\x7d' :: rest => some ([(path, v)], rest)
        | _ => none
    | _ => none

end

def pair? (cs : List Char) : Option ((List String × Value) × List Char) :=
  match key? cs with
  | some (path, '=' :: rest) => do
    let (v, rest) ← value (2 * rest.length + 2) deepest (skipBlanks rest)
    return ((path, v), ← lineEnd? rest)
  | _ => none

def header? : List Char → Option (Header × List Char)
  | '[' :: '[' :: rest =>
    match key? rest with
    | some (path, ']' :: ']' :: rest) => (lineEnd? rest).map fun rest => (.element path, rest)
    | _ => none
  | '[' :: rest =>
    match key? rest with
    | some (path, ']' :: rest) => (lineEnd? rest).map fun rest => (.table path, rest)
    | _ => none
  | _ => none

-- The sections of a text, the one that is being read first and its pairs backwards.
def sections (fuel : Nat) (header : Header) (done : List (List String × Value))
    (cs : List Char) : Option (List Section) :=
  match fuel with
  | 0 => none
  | fuel + 1 =>
    match skipLines false cs with
    | none => none
    | some [] => some [⟨header, done.reverse⟩]
    | some ('[' :: rest) =>
      match header? ('[' :: rest) with
      | none => none
      | some (next, rest) =>
        (sections fuel next [] rest).map fun later => ⟨header, done.reverse⟩ :: later
    | some rest =>
      match pair? rest with
      | none => none
      | some (p, rest) => sections fuel header (p :: done) rest

def parse? (text : String) : Option Value :=
  let cs := match text.toList with
    | c :: rest => if c.toNat = 0xFEFF then rest else c :: rest
    | [] => []
  match sections (cs.length + 1) (.table []) [] cs with
  | some parts => assemble? parts
  | none => none

end Balancing.Toml
