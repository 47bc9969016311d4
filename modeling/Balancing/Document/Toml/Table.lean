import Balancing.Document

namespace Balancing.Toml

-- A leaf is complete: nothing can be added to it.
inductive Node where
  | leaf (v : Value)
  | table (implied dotted : Bool) (fields : List (String × Node))
  | tables (elements : List (List (String × Node)))

abbrev Fields := List (String × Node)

namespace Fields

def find (key : String) : Fields → Option Node
  | [] => none
  | (k, n) :: rest => if k = key then some n else find key rest

def replace (key : String) (node : Node) (fields : Fields) : Fields :=
  fields.map fun (k, n) => (k, if k = key then node else n)

def erase (key : String) (fields : Fields) : Fields := fields.filter (·.1 ≠ key)

-- Acts on the table at the end of a path, making the tables that are missing.
-- Through an array of tables the path leads into its last element. A dotted key may pass through
-- implied tables only; a header passes through every table.
def descend {α : Type} (dotted : Bool) (act : Bool → Fields → Option (Fields × α)) :
    List String → Bool → Fields → Option (Fields × α)
  | [], isDotted, fields => act isDotted fields
  | key :: path, _, fields =>
    match fields.find key with
    | none => do
      let (inner, a) ← descend dotted act path dotted []
      return (fields ++ [(key, .table true dotted inner)], a)
    | some (.table implied isDotted inner) =>
      if dotted && !implied then none
      else do
        let (inner, a) ← descend dotted act path isDotted inner
        return (replace key (.table implied isDotted inner) fields, a)
    | some (.tables elements) =>
      match elements.getLast? with
      | none => none
      | some last => do
        let (inner, a) ← descend dotted act path false last
        return (replace key (.tables (elements.dropLast ++ [inner])) fields, a)
    | some (.leaf _) => none

-- Adds a value under a dotted key; the key must be new, and its table made by dotted keys.
def addPair (fields : Fields) (path : List String) (key : String) (v : Value) : Option Fields :=
  (descend true (fun isDotted fields =>
    if isDotted = path.isEmpty || (fields.find key).isSome then none
    else some (fields ++ [(key, .leaf v)], ())) path false fields).map Prod.fst

def addPairs (fields : Fields) (pairs : List (List String × Value)) : Option Fields :=
  pairs.foldlM (fun fields (path, v) =>
    match path.getLast? with
    | none => none
    | some key => addPair fields path.dropLast key v) fields

end Fields

mutual

def Node.seal : Node → Value
  | .leaf v => v
  | .table _ _ fields => .table (sealFields fields)
  | .tables elements => .list (sealElements elements)

def sealFields : List (String × Node) → List (String × Value)
  | [] => []
  | (key, n) :: rest => (key, n.seal) :: sealFields rest

def sealElements : List (List (String × Node)) → List Value
  | [] => []
  | fields :: rest => .table (sealFields fields) :: sealElements rest

end

inductive Header where
  | table (path : List String)
  | element (path : List String)

structure Section where
  header : Header
  pairs : List (List String × Value)

-- Takes out the implied table that a header now states, or nothing if there is none.
def openTable (root : Fields) (path : List String) (key : String) : Option (Fields × Fields) :=
  Fields.descend false (fun _ fields =>
    match fields.find key with
    | none => some (fields, [])
    | some (.table true false inner) => some (fields.erase key, inner)
    | some _ => none) path false root

def attachTable (root : Fields) (path : List String) (key : String) (fields : Fields) :
    Option Fields :=
  (Fields.descend false (fun _ outer =>
    some (outer ++ [(key, .table false false fields)], ())) path false root).map Prod.fst

def attachElement (root : Fields) (path : List String) (key : String) (fields : Fields) :
    Option Fields :=
  (Fields.descend false (fun _ outer =>
    match outer.find key with
    | none => some (outer ++ [(key, .tables [fields])], ())
    | some (.tables elements) => some (outer.replace key (.tables (elements ++ [fields])), ())
    | some _ => none) path false root).map Prod.fst

-- The pairs before the first header belong to the root.
def addSection (root : Fields) (s : Section) : Option Fields :=
  match s.header with
  | .table path =>
    match path.getLast? with
    | none => root.addPairs s.pairs
    | some key => do
      let (root, start) ← openTable root path.dropLast key
      attachTable root path.dropLast key (← start.addPairs s.pairs)
  | .element path =>
    match path.getLast? with
    | none => none
    | some key => do
      attachElement root path.dropLast key (← Fields.addPairs [] s.pairs)

def assemble? (sections : List Section) : Option Value :=
  (sections.foldlM addSection []).map fun root => .table (sealFields root)

end Balancing.Toml
