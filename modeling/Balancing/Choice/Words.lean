import Balancing.Numbers.Word

namespace Balancing

-- An endless stream of random words and how many of them have been used.
structure Words where
  word : Nat → UInt64
  used : Nat := 0

instance : Inhabited Words := ⟨{ word := fun _ => 0 }⟩

namespace Words

def next (w : Words) : UInt64 × Words := (w.word w.used, { w with used := w.used + 1 })

-- The k-th word of the generator SplitMix64.
-- The state before the k-th word is the seed and k times the odd constant.
def splitMix (seed : UInt64) (k : Nat) : UInt64 :=
  let z := seed + UInt64.ofNat (k + 1) * 0x9E3779B97F4A7C15
  let z := (z ^^^ (z >>> 30)) * 0xBF58476D1CE4E5B9
  let z := (z ^^^ (z >>> 27)) * 0x94D049BB133111EB
  z ^^^ (z >>> 31)

def seeded (words : List UInt64) (seed : UInt64) : Words :=
  let given := words.toArray
  { word := fun k => if h : k < given.size then given[k] else splitMix seed (k - given.size) }

-- The last low word that is taken, for a range below `total`.
def zone (total : UInt64) : UInt64 :=
  (total <<< UInt64.ofNat (63 - total.toNat.log2)) - 1

-- The high word of the product is uniform once the low word is kept within the zone. At least every
-- second word is kept; after `patience` refusals in a row the next word is taken as it comes.
def draw (patience : Nat) (total : UInt64) (w : Words) : UInt64 × Words :=
  let (v, w) := w.next
  let product := v.toNat * total.toNat
  let high := UInt64.ofNat (product / wordCount)
  match patience with
  | 0 => (high, w)
  | patience + 1 =>
    if UInt64.ofNat product ≤ zone total then (high, w) else draw patience total w

def standardPatience : Nat := 65536

-- A number below the total, which is not zero.
def below (total : UInt64) (w : Words) : UInt64 × Words := draw standardPatience total w

end Words

end Balancing
