import Balancing.Duration

namespace Balancing

structure Budget where
  triesLeft : Nat
  timeLeft : Duration
  deriving DecidableEq, Repr

namespace Budget

def charge (b : Budget) (elapsed : Duration) : Budget :=
  ⟨b.triesLeft - 1, b.timeLeft.minus elapsed⟩

def canRetry (b : Budget) : Bool := 0 < b.triesLeft && !b.timeLeft.isZero

-- The cap comes first and the factor after it, so a factor above one can pass the time left.
def attemptTimeout (b : Budget) (requestTimeout : Duration) (factor : Binary64) : Duration :=
  (requestTimeout.shorter b.timeLeft).scale factor

theorem triesLeft_charge (b : Budget) (e : Duration) :
    (b.charge e).triesLeft = b.triesLeft - 1 := rfl

theorem nanoseconds_charge (b : Budget) (e : Duration) :
    (b.charge e).timeLeft.nanoseconds = b.timeLeft.nanoseconds - e.nanoseconds := rfl

theorem canRetry_iff (b : Budget) :
    b.canRetry ↔ 0 < b.triesLeft ∧ 0 < b.timeLeft.nanoseconds := by
  simp [canRetry, Duration.isZero, Nat.pos_iff_ne_zero]

theorem canRetry_charge_iff (b : Budget) (e : Duration) :
    (b.charge e).canRetry ↔ 1 < b.triesLeft ∧ e.nanoseconds < b.timeLeft.nanoseconds := by
  rw [canRetry_iff, triesLeft_charge, nanoseconds_charge]
  omega

theorem triesLeft_charge_lt {b : Budget} {e : Duration} (h : (b.charge e).canRetry) :
    (b.charge e).triesLeft < b.triesLeft := by
  have left := ((canRetry_charge_iff b e).mp h).1
  rw [triesLeft_charge]
  omega

end Budget

end Balancing
