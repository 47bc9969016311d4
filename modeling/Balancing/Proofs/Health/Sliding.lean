import Balancing.Health.Ring
import Mathlib.Data.List.DropRight

namespace Balancing.Ring

variable {α : Type}

def pushAll (r : Ring α) (as : List α) : Ring α := as.foldl push r

@[simp] theorem pushAll_nil (r : Ring α) : r.pushAll [] = r := rfl

@[simp] theorem pushAll_cons (r : Ring α) (a : α) (as : List α) :
    r.pushAll (a :: as) = (r.push a).pushAll as := rfl

@[simp] theorem size_pushAll (r : Ring α) (as : List α) : (r.pushAll as).size = r.size := by
  induction as generalizing r with
  | nil => rfl
  | cons a as ih => rw [pushAll_cons, ih, size_push]

theorem size_pos (r : Ring α) : 0 < r.size := Nat.zero_lt_of_lt r.position_lt

theorem toList_pushAll (r : Ring α) (as : List α) :
    (r.pushAll as).toList = (r.toList ++ as).drop as.length := by
  induction as generalizing r with
  | nil => simp
  | cons a as ih =>
    rw [pushAll_cons, ih, toList_push, toList_eq_oldest_cons r]
    simp

-- What is left of the first slots, and the newest of what was written.
theorem toList_pushAll_split (r : Ring α) (as : List α) :
    (r.pushAll as).toList = r.toList.drop as.length ++ as.rtake r.size := by
  rw [toList_pushAll, List.drop_append, length_toList, List.rtake]

theorem length_rtake_le (as : List α) (n : Nat) : (as.rtake n).length ≤ n := by
  rw [List.rtake, List.length_drop]
  omega

-- Seen from the oldest slot on, they are the same slots in another order.
theorem slots_perm (r : Ring α) : r.slots.toList.Perm r.toList := by
  have parts : r.slots.toList.take r.position ++ r.slots.toList.drop r.position = r.slots.toList :=
    List.take_append_drop ..
  have turned : (r.slots.toList.take r.position ++ r.slots.toList.drop r.position).Perm r.toList :=
    List.perm_append_comm
  rwa [parts] at turned

end Balancing.Ring
