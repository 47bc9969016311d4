import Balancing.Text.CaseTables

namespace Balancing.Text

-- White space as the Unicode property of that name has it.
def isBlank (c : Char) : Bool :=
  let n := c.toNat
  (9 ≤ n && n ≤ 13) || n = 0x20 || n = 0x85 || n = 0xA0 || n = 0x1680
    || (0x2000 ≤ n && n ≤ 0x200A) || n = 0x2028 || n = 0x2029 || n = 0x202F || n = 0x205F
    || n = 0x3000

def trim (cs : List Char) : List Char :=
  ((cs.dropWhile isBlank).reverse.dropWhile isBlank).reverse

def hexDigit? (c : Char) : Option Nat :=
  if c.isDigit then some (c.toNat - 48)
  else if 'a' ≤ c ∧ c ≤ 'f' then some (c.toNat - 87)
  else if 'A' ≤ c ∧ c ≤ 'F' then some (c.toNat - 55)
  else none

def digitsValue (digits : List Char) : Nat :=
  digits.foldl (fun value c => 10 * value + (c.toNat - 48)) 0

def withoutPlus : List Char → List Char
  | '+' :: rest => rest
  | text => text

-- Reads an unsigned decimal number that is at most `bound`.
-- One plus sign may lead; zeros may lead; nothing else but ASCII digits, and at least one of them.
def unsigned? (bound : Nat) (text : List Char) : Option Nat :=
  let digits := withoutPlus text
  if !digits.isEmpty && digits.all Char.isDigit && digitsValue digits ≤ bound then
    some (digitsValue digits)
  else none

def capitalSigma : Char := Char.ofNat 0x3A3
def smallSigma : Char := Char.ofNat 0x3C3
def finalSigma : Char := Char.ofNat 0x3C2

def lowerChar (c : Char) : List Char :=
  let n := c.toNat
  if n < 128 then [c.toLower]
  else if n = 0x130 then ['i', Char.ofNat 0x307]
  else match lowerRuns.find? fun (first, last, step, _) =>
      first ≤ n && n ≤ last && (n - first) % step = 0 with
    | some (_, _, _, shift) => [Char.ofNat ((n : Int) + shift).toNat]
    | none => [c]

def meetsCased (cs : List Char) : Bool :=
  match cs.dropWhile isCaseIgnorable with
  | c :: _ => isCased c
  | [] => false

-- The lower-case form of what follows `before`, which is given backwards.
def lowerAfter (before : List Char) : List Char → List Char
  | [] => []
  | c :: rest =>
    let low :=
      if c = capitalSigma then
        [if meetsCased before && !meetsCased rest then finalSigma else smallSigma]
      else lowerChar c
    low ++ lowerAfter (c :: before) rest

def lowercase (s : String) : String := String.ofList (lowerAfter [] s.toList)

-- Equality up to the case of ASCII letters.
def sameAscii (s t : String) : Bool :=
  s.toList.map Char.toLower = t.toList.map Char.toLower

end Balancing.Text
