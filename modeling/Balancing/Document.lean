import Balancing.Numbers.Binary64
import Balancing.Text

namespace Balancing

-- A value of a data format. The fields of a table stand in the order in which they are visited.
inductive Value where
  | null
  | boolean (b : Bool)
  | integer (i : Int)
  | number (x : Binary64)
  | text (s : String)
  | list (items : List Value)
  | table (fields : List (String × Value))
  deriving Inhabited

-- A reader takes what it needs from the front of a text and gives back the rest.
abbrev Reader (α : Type) := List Char → Option (α × List Char)

namespace Value

def natural (n : Nat) : Value := .integer n

def optional {α : Type} (f : α → Value) : Option α → Value
  | none => .null
  | some a => f a

def optionalText (s : Option String) : Value := optional .text s

end Value

-- A decimal number as data formats write it. How a run of digits looks is up to the format.
structure Decimal where
  negative : Bool
  whole : List Char
  fraction : List Char
  exponent : Option Int
  deriving DecidableEq, Repr

namespace Decimal

def minus : List Char → Bool × List Char
  | '-' :: rest => (true, rest)
  | cs => (false, cs)

def plusOrMinus : List Char → Bool × List Char
  | '+' :: rest => (false, rest)
  | cs => minus cs

def signed (negative : Bool) (n : Nat) : Int := if negative then -n else n

variable (run : Reader (List Char))

def whole? : Reader (List Char)
  | '0' :: rest => some (['0'], rest)
  | cs => run cs

def fraction? : Reader (List Char)
  | '.' :: rest => run rest
  | cs => some ([], cs)

def exponent? : Reader (Option Int)
  | c :: rest =>
    if c = 'e' || c = 'E' then do
      let (negative, rest) := plusOrMinus rest
      let (digits, rest) ← run rest
      return (some (signed negative (Text.digitsValue digits)), rest)
    else some (none, c :: rest)
  | [] => some (none, [])

def read? (negative : Bool) (cs : List Char) : Option (Decimal × List Char) := do
  let (whole, rest) ← whole? run cs
  let (fraction, rest) ← fraction? run rest
  let (exponent, rest) ← exponent? run rest
  return (⟨negative, whole, fraction, exponent⟩, rest)

-- What matters is how the number is written: 1.0 and 1e0 are not whole.
def isWhole (d : Decimal) : Bool := d.fraction.isEmpty && d.exponent.isNone

def size (d : Decimal) : Nat := Text.digitsValue d.whole

def toBinary (d : Decimal) : Binary64 :=
  let digits := d.whole ++ d.fraction
  .ofDecimal d.negative (Text.digitsValue digits) digits.length
    (d.exponent.getD 0 - d.fraction.length)

end Decimal

end Balancing
