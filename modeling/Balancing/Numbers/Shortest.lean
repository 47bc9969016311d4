import Balancing.Numbers.Binary64

namespace Balancing.Binary64

-- The numbers that round to a positive value, in units of a quarter of its last place.
structure Neighbourhood where
  low : Nat
  value : Nat
  high : Nat
  closed : Bool

-- Below a power of two the numbers lie twice as close, except at the bottom of the range.
def neighbourhood (significand : Nat) (exponent : Int) : Neighbourhood :=
  let value := 4 * significand
  let below := if significand = leastNormal ∧ leastExponent < exponent then 1 else 2
  ⟨value - below, value, value + 2, significand % 2 = 0⟩

def Neighbourhood.holds (n : Neighbourhood) (x : Nat) (scale : Nat) : Bool :=
  if n.closed then n.low * scale ≤ x && x ≤ n.high * scale
  else n.low * scale < x && x < n.high * scale

-- The multiple of `10^power` that reads back as the value, the nearer one if two do.
def onDecimalGrid (n : Neighbourhood) (exponent : Int) (power : Int) : Option Nat :=
  -- quarter units as `scale`, the decimal step as `step`, both whole numbers
  let scale := powerOfTwo (exponent - 2).toNat * powerOfTen (-power).toNat
  let step := powerOfTen power.toNat * powerOfTwo (2 - exponent).toNat
  let down := n.value * scale / step
  let up := down + 1
  let downHolds := 0 < down && n.holds (down * step) scale
  let upHolds := n.holds (up * step) scale
  if downHolds && upHolds then
    if up * step - n.value * scale ≤ n.value * scale - down * step then some up else some down
  else if downHolds then some down
  else if upHolds then some up
  else none

def shortest (significand : Nat) (exponent : Int) : Nat × Int :=
  let (n, d) := ratio significand exponent
  let top : Int := (toString (n / d)).length
  let hood := neighbourhood significand exponent
  ((List.range 400).findSome? fun (k : Nat) =>
    (onDecimalGrid hood exponent (top - k)).map fun digits => (digits, top - (k : Int))).getD (0, 0)

-- `digits * 10^power` with a point where one is needed and no exponent.
def plainText (digits : Nat) (power : Int) : String :=
  let shown := (toString digits).toList
  if 0 ≤ power then String.ofList (shown ++ List.replicate power.toNat '0')
  else
    let places := (-power).toNat
    let padded := List.replicate (places + 1 - shown.length) '0' ++ shown
    let whole := padded.length - places
    String.ofList (padded.take whole ++ '.' :: padded.drop whole)

def text : Binary64 → String
  | nan => "NaN"
  | infinite s => if s then "-inf" else "inf"
  | finite s m e =>
    let size := if m = 0 then "0" else
      let (digits, power) := shortest m e
      plainText digits power
    if s then "-" ++ size else size

end Balancing.Binary64
