import Balancing.Uri

namespace Balancing.Uri

def longest : Nat := 65534
def longestScheme : Nat := 64

def isSchemeChar (c : Char) : Bool :=
  c.isAlphanum || "+-.~".toList.contains c

def isAuthorityChar (c : Char) : Bool :=
  c.isAlphanum || "!$%&'()*+,-.:;=@[]_~".toList.contains c

def isPathChar (c : Char) : Bool :=
  let n := c.toNat
  n = 0x21 || n = 0x22 || (0x24 ≤ n && n ≤ 0x3B) || n = 0x3D || (0x40 ≤ n && n ≤ 0x5F)
    || (0x61 ≤ n && n ≤ 0x7E) || 0x80 ≤ n

def isQueryChar (c : Char) : Bool :=
  let n := c.toNat
  n = 0x21 || (0x24 ≤ n && n ≤ 0x3B) || n = 0x3D || (0x3F ≤ n && n ≤ 0x7E) || 0x80 ≤ n

def endsAuthority (c : Char) : Bool :=
  c = '/' || c = '?' || c = '#'

def endsPath (c : Char) : Bool :=
  c = '?' || c = '#'

-- What has been seen of an authority, read from the left.
structure AuthorityScan where
  colons : Nat := 0
  opened : Bool := false
  closed : Bool := false
  percent : Bool := false
  endsInAt : Bool := false

namespace AuthorityScan

-- User information and a bracketed literal may hold colons and percent signs: the sign or bracket
-- that ends them forgets both.
def step (s : AuthorityScan) (c : Char) : Option AuthorityScan :=
  if !isAuthorityChar c then none
  else
    let s := { s with endsInAt := false }
    if c = ':' then
      if 8 ≤ s.colons then none else some { s with colons := s.colons + 1 }
    else if c = '[' then
      if s.percent || s.opened then none else some { s with opened := true }
    else if c = ']' then
      if !s.opened || s.closed then none
      else some { s with closed := true, colons := 0, percent := false }
    else if c = '@' then some { s with colons := 0, percent := false, endsInAt := true }
    else if c = '%' then some { s with percent := true }
    else some s

def accepts (s : AuthorityScan) : Bool :=
  s.opened == s.closed && s.colons ≤ 1 && !s.endsInAt && !s.percent

end AuthorityScan

def isAuthority (cs : List Char) : Bool :=
  match cs.foldlM AuthorityScan.step {} with
  | some s => !cs.isEmpty && s.accepts
  | none => false

-- Whether the text starts with the lower-case `word`, in any case.
def startsWithFolded : (word : List Char) → List Char → Bool
  | [], _ => true
  | _, [] => false
  | w :: ws, c :: cs => c.toLower = w && startsWithFolded ws cs

-- A text that starts like a scheme but has no "://" after it has no scheme.
def splitScheme (cs : List Char) : Option (Option String × List Char) :=
  if startsWithFolded "http://".toList cs then some (some "http", cs.drop 7)
  else if startsWithFolded "https://".toList cs then some (some "https", cs.drop 8)
  else
    let name := cs.takeWhile isSchemeChar
    match cs.dropWhile isSchemeChar with
    | ':' :: '/' :: '/' :: rest =>
      if name.isEmpty && rest.isEmpty then some (none, cs)
      else if longestScheme < name.length then none
      else some (some (String.ofList name), rest)
    | _ => some (none, cs)

-- What follows a number sign is dropped unread.
def location? (cs : List Char) : Option Location :=
  let path := cs.takeWhile (!endsPath ·)
  if !path.all isPathChar then none
  else
    let shown := if path.isEmpty then "/" else String.ofList path
    match cs.dropWhile (!endsPath ·) with
    | '?' :: rest =>
      let query := rest.takeWhile (· != '#')
      if query.all isQueryChar then some ⟨shown, some (String.ofList query)⟩ else none
    | _ => some ⟨shown, none⟩

def parseChars? : List Char → Option Uri
  | [] => none
  | ['*'] => some ⟨none, none, some ⟨"*", none⟩⟩
  | '/' :: rest => (location? ('/' :: rest)).map fun location => ⟨none, none, some location⟩
  | cs =>
    match splitScheme cs with
    | none => none
    | some (scheme, rest) =>
      let authority := rest.takeWhile (!endsAuthority ·)
      let tail := rest.dropWhile (!endsAuthority ·)
      if !isAuthority authority then none
      else match scheme with
        | none => if tail.isEmpty then some ⟨none, some (String.ofList authority), none⟩ else none
        | some scheme =>
          (location? tail).map fun location =>
            ⟨some scheme, some (String.ofList authority), some location⟩

def parse? (text : String) : Option Uri :=
  if longest < text.utf8ByteSize then none else parseChars? text.toList

end Balancing.Uri

namespace Balancing

-- The scheme and authority behind a server address, which is what a request is sent to.
structure Endpoint where
  scheme : String
  authority : String
  deriving DecidableEq, Inhabited, Repr

namespace Endpoint

def namesScheme : List Char → Bool
  | ':' :: '/' :: '/' :: _ => true
  | _ :: rest => namesScheme rest
  | [] => false

-- An address without a scheme is one of plain http; what follows the authority is checked, then
-- dropped.
def parse? (address : String) : Option Endpoint :=
  let text := if namesScheme address.toList then address else "http://" ++ address
  match Uri.parse? text with
  | some ⟨some scheme, some authority, _⟩ => some ⟨scheme, authority⟩
  | _ => none

def isHttp (e : Endpoint) : Bool := e.scheme = "http"

end Endpoint

end Balancing
