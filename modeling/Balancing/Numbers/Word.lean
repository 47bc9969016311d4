namespace Balancing

-- Why a computation comes to no result.
inductive Breakdown where
  | totalTimeout
  -- a result that is no word
  | sum
  | difference
  | product
  -- a number below zero was asked for
  | emptyRange
  -- an earlier sum has left the window of latencies broken
  | brokenWindow
  deriving DecidableEq, Repr

def Breakdown.message : Breakdown → String
  | totalTimeout => "overflow when multiplying duration by scalar"
  | sum => "attempt to add with overflow"
  | difference => "attempt to subtract with overflow"
  | product => "attempt to multiply with overflow"
  | emptyRange => "cannot sample empty range"
  | brokenWindow => "response time tracker mutex poisoned: PoisonError { .. }"

def wordCount : Nat := 18446744073709551616

theorem bind_ok_iff {ε α β : Type} {x : Except ε α} {f : α → Except ε β} {b : β} :
    x >>= f = .ok b ↔ ∃ a, x = .ok a ∧ f a = .ok b := by
  cases x with
  | error e => simp [bind, Except.bind]
  | ok a => simp [bind, Except.bind]

-- Arithmetic on words of 64 bits that never wraps round.
namespace Word

def ofNat (otherwise : Breakdown) (n : Nat) : Except Breakdown UInt64 :=
  if n < wordCount then .ok (.ofNat n) else .error otherwise

def add (a b : UInt64) : Except Breakdown UInt64 := ofNat .sum (a.toNat + b.toNat)

def sub (a b : UInt64) : Except Breakdown UInt64 :=
  if b ≤ a then .ok (a - b) else .error .difference

end Word

end Balancing
