namespace Balancing

-- The quotient rounded to the nearest natural number; a half goes to the even neighbour.
def roundHalfEven (num den : Nat) : Nat :=
  let q := num / den
  let r := num % den
  if 2 * r < den then q
  else if den < 2 * r then q + 1
  else if q % 2 = 0 then q else q + 1

def powerOfTwo (n : Nat) : Nat := Nat.pow 2 n

def powerOfTen (n : Nat) : Nat := Nat.pow 10 n

inductive Binary64 where
  | nan
  | infinite (negative : Bool)
  | finite (negative : Bool) (significand : Nat) (exponent : Int)
  deriving DecidableEq, Inhabited, Repr

namespace Binary64

def leastExponent : Int := -1074
def greatestExponent : Int := 971

def leastNormal : Nat := powerOfTwo 52

def zero : Binary64 := .finite false 0 leastExponent

-- `num / (den * 2^exponent)` as a quotient of naturals.
def onGrid (num den : Nat) (exponent : Int) : Nat × Nat :=
  (num * powerOfTwo (-exponent).toNat, den * powerOfTwo exponent.toNat)

-- The exponent at which the quotient has 53 bits before the point, or the least exponent.
def gridExponent (num den : Nat) : Int :=
  let low : Int := (num.log2 : Int) - den.log2 - 53
  let (n, d) := onGrid num den low
  max leastExponent (if n / d < 2 * leastNormal then low else low + 1)

def ofRatio (negative : Bool) (num den : Nat) : Binary64 :=
  if num = 0 then .finite negative 0 leastExponent
  else
    let exponent := gridExponent num den
    let (n, d) := onGrid num den exponent
    let significand := roundHalfEven n d
    let (significand, exponent) :=
      if significand = 2 * leastNormal then (leastNormal, exponent + 1)
      else (significand, exponent)
    if greatestExponent < exponent then .infinite negative
    else .finite negative significand exponent

-- The natural numbers whose quotient is `significand * 2^exponent`.
def ratio (significand : Nat) (exponent : Int) : Nat × Nat :=
  (significand * powerOfTwo exponent.toNat, powerOfTwo (-exponent).toNat)

def ofScaled (negative : Bool) (significand : Nat) (exponent : Int) : Binary64 :=
  let (n, d) := ratio significand exponent
  ofRatio negative n d

def ofNat (n : Nat) : Binary64 := ofRatio false n 1

def ofInt (i : Int) : Binary64 := ofRatio (i < 0) i.natAbs 1

def one : Binary64 := ofNat 1

-- The decimal `digits * 10^exponent`, where `width` bounds the number of digits.
-- Outside these powers of ten the answer is known without the exact quotient.
def ofDecimal (negative : Bool) (digits width : Nat) (exponent : Int) : Binary64 :=
  if digits = 0 then .finite negative 0 leastExponent
  else if 400 < exponent then .infinite negative
  else if width + exponent < -400 then .finite negative 0 leastExponent
  else ofRatio negative (digits * powerOfTen exponent.toNat) (powerOfTen (-exponent).toNat)

def isFinite : Binary64 → Bool
  | finite .. => true
  | _ => false

def neg : Binary64 → Binary64
  | nan => nan
  | infinite s => .infinite (!s)
  | finite s m e => .finite (!s) m e

-- `±significand` counted in units of `2^unit`, for a unit at or below the exponent.
def units (negative : Bool) (significand : Nat) (exponent unit : Int) : Int :=
  let size : Int := significand * powerOfTwo (exponent - unit).toNat
  if negative then -size else size

-- A sum that cancels out is positive zero unless both terms were negative.
def add : Binary64 → Binary64 → Binary64
  | nan, _ => nan
  | _, nan => nan
  | infinite s, infinite t => if s = t then .infinite s else nan
  | infinite s, finite .. => .infinite s
  | finite .., infinite t => .infinite t
  | finite s m e, finite t n f =>
    let unit := min e f
    let sum := units s m e unit + units t n f unit
    if sum = 0 then .finite (s && t) 0 leastExponent
    else ofScaled (sum < 0) sum.natAbs unit

def sub (x y : Binary64) : Binary64 := add x (neg y)

def mul : Binary64 → Binary64 → Binary64
  | nan, _ => nan
  | _, nan => nan
  | infinite s, infinite t => .infinite (s ^^ t)
  | infinite s, finite t n _ => if n = 0 then nan else .infinite (s ^^ t)
  | finite s m _, infinite t => if m = 0 then nan else .infinite (s ^^ t)
  | finite s m e, finite t n f => ofScaled (s ^^ t) (m * n) (e + f)

def div : Binary64 → Binary64 → Binary64
  | nan, _ => nan
  | _, nan => nan
  | infinite _, infinite _ => nan
  | infinite s, finite t .. => .infinite (s ^^ t)
  | finite s _ _, infinite t => .finite (s ^^ t) 0 leastExponent
  | finite s m e, finite t n f =>
    if n = 0 then (if m = 0 then nan else .infinite (s ^^ t))
    else
      let (a, b) := ratio m e
      let (c, d) := ratio n f
      ofRatio (s ^^ t) (a * d) (b * c)

-- The order of the numbers; zeros are equal and a NaN has no place in it.
def compare? : Binary64 → Binary64 → Option Ordering
  | nan, _ => none
  | _, nan => none
  | infinite s, infinite t => some (compare t.toNat s.toNat)
  | infinite s, finite .. => some (if s then .lt else .gt)
  | finite .., infinite t => some (if t then .gt else .lt)
  | finite s m e, finite t n f =>
    let unit := min e f
    some (compare (units s m e unit) (units t n f unit))

def lt (x y : Binary64) : Bool := compare? x y = some .lt

def le (x y : Binary64) : Bool := x.lt y || compare? x y = some .eq

def isPositive (x : Binary64) : Bool := zero.lt x

-- The whole part, kept within `0 … bound`.
-- What is below zero or not a number becomes 0; what is above the bound becomes the bound.
def truncate (bound : Nat) : Binary64 → Nat
  | nan => 0
  | infinite s => if s then 0 else bound
  | finite s m e =>
    if s then 0 else
      let (n, d) := ratio m e
      min bound (n / d)

-- The nearest natural number, a half going up, kept within `0 … bound`.
def roundHalfUp (bound : Nat) : Binary64 → Nat
  | nan => 0
  | infinite s => if s then 0 else bound
  | finite s m e =>
    if s then 0 else
      let (n, d) := ratio m e
      min bound ((2 * n + d) / (2 * d))

def signBit (negative : Bool) : Nat := if negative then 0x8000000000000000 else 0

def toBits : Binary64 → Nat
  | nan => 0x7ff8000000000000
  | infinite s => signBit s + 0x7ff0000000000000
  | finite s m e =>
    signBit s + if m < leastNormal then m
      else (e - leastExponent).toNat * leastNormal + m

end Binary64

end Balancing
