import Balancing.Numbers.Binary64

namespace Balancing

-- A point on the clock, in nanoseconds since it started.
abbrev Instant := Nat

def nanosPerSecond : Nat := 1000000000

structure Duration where
  nanoseconds : Nat
  fits : nanoseconds < 18446744073709551616 * 1000000000
  deriving DecidableEq, Repr

-- Seconds as a binary number: the whole seconds and the rest are converted apart, then added.
def inSeconds (nanoseconds : Nat) : Binary64 :=
  (Binary64.ofNat (nanoseconds / nanosPerSecond)).add
    ((Binary64.ofNat (nanoseconds % nanosPerSecond)).div (.ofNat nanosPerSecond))

def Binary64.isFactor (x : Binary64) : Bool := x.isFinite && x.isPositive

def usableFactor (given : Binary64) : Binary64 := if given.isFactor then given else .one

namespace Duration

def zero : Duration := ⟨0, by decide⟩

instance : Inhabited Duration := ⟨zero⟩

def ofNanoseconds? (n : Nat) : Option Duration :=
  if h : n < 18446744073709551616 * 1000000000 then some ⟨n, h⟩ else none

def ofSeconds (s : UInt64) : Duration :=
  ⟨s.toNat * 1000000000, by have := s.toNat_lt; omega⟩

def ofMillis (ms : UInt64) : Duration :=
  ⟨ms.toNat * 1000000, by have := ms.toNat_lt; omega⟩

def isZero (d : Duration) : Bool := d.nanoseconds = 0

def shorter (d e : Duration) : Duration := if d.nanoseconds ≤ e.nanoseconds then d else e

def minus (d e : Duration) : Duration :=
  ⟨d.nanoseconds - e.nanoseconds, by have := d.fits; omega⟩

def times? (d : Duration) (n : Nat) : Option Duration := ofNanoseconds? (d.nanoseconds * n)

-- Whole microseconds, as far as 64 bits go.
def micros (d : Duration) : UInt64 :=
  UInt64.ofNat (min (d.nanoseconds / 1000) 18446744073709551615)

-- The nearest nanosecond of the exact value; a half goes to the even one.
def nearest? : Binary64 → Option Duration
  | .finite negative m e =>
    if negative && m ≠ 0 then none
    else
      let (n, d) := Binary64.ratio m e
      ofNanoseconds? (roundHalfEven (n * nanosPerSecond) d)
  | _ => none

-- A number that is no factor, or that leads out of range, changes nothing.
def scale (d : Duration) (factor : Binary64) : Duration :=
  if factor.isFactor then
    (nearest? ((inSeconds d.nanoseconds).mul factor)).getD d
  else d

end Duration

end Balancing
