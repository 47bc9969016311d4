import Balancing.Health.Ring
import Balancing.Numbers.Word

namespace Balancing

-- The last latencies of a server in microseconds; `total` is the sum of the slots.
-- A window whose total has left 64 bits is broken and takes no more samples.
structure LatencyWindow where
  ring : Ring UInt64
  total : UInt64
  filled : Bool
  broken : Option Breakdown := none
  deriving DecidableEq, Repr

namespace LatencyWindow

def size (w : LatencyWindow) : Nat := w.ring.size

def empty (size : Nat) : Except WindowError LatencyWindow :=
  if empty : size = 0 then .error (.invalidSize size)
  else .ok {
    ring := .ofSlots (Array.replicate size 0) (by simp; omega)
    total := 0
    filled := false }

-- The total once the sample has taken the place of the oldest one.
def next (w : LatencyWindow) (micros : UInt64) : Except Breakdown UInt64 :=
  if w.broken.isSome then .error .brokenWindow
  else do
    let others ← Word.sub w.total w.ring.oldest
    Word.add others micros

-- The slots of a broken window are written but never read again.
def record (w : LatencyWindow) (micros : UInt64) : LatencyWindow :=
  let ring := w.ring.push micros
  match w.next micros with
  | .ok total => { w with ring, total, filled := w.filled || ring.position = 0 }
  | .error e => { w with ring, broken := some e }

-- Slots that were never written count as zero.
def mean (w : LatencyWindow) : UInt64 := UInt64.ofNat (w.total.toNat / w.size)

def isWarmingUp (w : LatencyWindow) : Bool := !w.filled

def mean? (w : LatencyWindow) : Option UInt64 := if w.isWarmingUp then none else some w.mean

end LatencyWindow

end Balancing
