import Balancing.Health.Ring

namespace Balancing

-- `errors` is the number of slots that hold an error.
structure ErrorWindow where
  thresholdPercent : Nat
  ring : Ring Bool
  errors : Nat
  deriving DecidableEq, Repr

namespace ErrorWindow

def standardThreshold : Nat := 20

def size (w : ErrorWindow) : Nat := w.ring.size

-- The errors stand in front, so the first outcomes overwrite them.
def startSlots (size errors : Nat) : Array Bool :=
  Array.replicate errors true ++ Array.replicate (size - errors) false

theorem startSlots_nonempty {size errors : Nat} (positive : size ≠ 0) :
    0 < (startSlots size errors).size := by
  simp [startSlots]
  omega

def withLivePercent (size livePercent : Nat) : Except WindowError ErrorWindow :=
  if empty : size = 0 then .error (.invalidSize size)
  else if 100 < livePercent then .error (.invalidPercent livePercent)
  else
    let errors := size - size * livePercent / 100
    .ok ⟨standardThreshold, .ofSlots (startSlots size errors) (startSlots_nonempty empty), errors⟩

def healthy (size : Nat) : Except WindowError ErrorWindow := withLivePercent size 100

def withThreshold (w : ErrorWindow) (percent : Nat) : Except WindowError ErrorWindow :=
  if 100 < percent then .error (.invalidPercent percent)
  else .ok { w with thresholdPercent := percent }

def record (w : ErrorWindow) (isError : Bool) : ErrorWindow :=
  let overwritten := w.ring.oldest
  { w with
    ring := w.ring.push isError
    errors := match overwritten, isError with
      | false, true => w.errors + 1
      | true, false => w.errors - 1
      | _, _ => w.errors }

def successes (w : ErrorWindow) : Nat := w.size - w.errors

def tooManyErrors (w : ErrorWindow) : Bool := w.size * w.thresholdPercent < w.errors * 100

end ErrorWindow

end Balancing
