import Balancing.Text

namespace Balancing

-- A path, never empty, and what followed the question mark if there was one.
structure Location where
  path : String
  query : Option String
  deriving DecidableEq, Inhabited, Repr

namespace Location

def root : Location := ⟨"/", none⟩

def text (l : Location) : String :=
  match l.query with
  | none => l.path
  | some query => l.path ++ "?" ++ query

end Location

structure Uri where
  scheme : Option String
  authority : Option String
  location : Option Location
  deriving DecidableEq, Inhabited, Repr

namespace Authority

-- What stands after the last `mark`; all of it when there is none.
def afterLast (mark : Char) (cs : List Char) : List Char :=
  (cs.reverse.takeWhile (· != mark)).reverse

def bracketed : List Char → List Char
  | [] => []
  | ']' :: _ => [']']
  | c :: rest => c :: bracketed rest

-- The host without user information: a bracketed literal whole, any other up to a colon.
def host (authority : String) : String :=
  let bare := afterLast '@' authority.toList
  String.ofList <| match bare with
    | '[' :: _ => bracketed bare
    | _ => bare.takeWhile (· != ':')

-- The last colon of the whole authority counts, so that a bare bracketed literal has no number.
def portNumber? (authority : String) : Option Nat :=
  let cs := authority.toList
  if cs.contains ':' then Text.unsigned? 65535 (afterLast ':' cs) else none

end Authority

namespace Uri

def text (u : Uri) : String :=
  (match u.scheme with
    | some scheme => scheme ++ "://"
    | none => "")
  ++ u.authority.getD ""
  ++ (match u.location with
    | some location => location.text
    | none => "")

def host (u : Uri) : Option String :=
  u.authority.map Authority.host

-- A URI of these parts, if they fit together: a scheme asks for an authority and a location, and an
-- authority that has a location asks for a scheme.
def ofParts? : Option String → Option String → Option Location → Option Uri
  | some _, none, _ => none
  | some _, some _, none => none
  | none, some _, some _ => none
  | scheme, authority, location => some ⟨scheme, authority, location⟩

-- Path and query stay as they are; a bare authority gets the root path. Parts that do not fit
-- together leave the URI as it was.
def retargetBy (assemble : Option String → Option String → Option Location → Option Uri) (u : Uri)
    (scheme authority : String) : Uri :=
  (assemble (some scheme) (some authority) (some (u.location.getD .root))).getD u

def retarget (u : Uri) (scheme authority : String) : Uri :=
  u.retargetBy ofParts? scheme authority

@[simp] theorem scheme_retarget (u : Uri) (s a : String) : (u.retarget s a).scheme = some s := rfl

@[simp] theorem authority_retarget (u : Uri) (s a : String) :
    (u.retarget s a).authority = some a := rfl

@[simp] theorem location_retarget (u : Uri) (s a : String) :
    (u.retarget s a).location = some (u.location.getD .root) := rfl

@[simp] theorem retarget_retarget (u : Uri) (s a s' a' : String) :
    (u.retarget s a).retarget s' a' = u.retarget s' a' := rfl

end Uri

end Balancing
