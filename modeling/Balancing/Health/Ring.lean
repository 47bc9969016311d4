namespace Balancing

-- `position` is the oldest slot, the next one to be overwritten.
structure Ring (α : Type) where
  slots : Array α
  position : Nat
  position_lt : position < slots.size
  deriving DecidableEq, Repr

namespace Ring

variable {α : Type}

def ofSlots (slots : Array α) (nonempty : 0 < slots.size) : Ring α := ⟨slots, 0, nonempty⟩

def size (r : Ring α) : Nat := r.slots.size

def oldest (r : Ring α) : α :=
  have inside := r.position_lt
  r.slots[r.position]

def push (r : Ring α) (a : α) : Ring α where
  slots := r.slots.set r.position a r.position_lt
  position := (r.position + 1) % r.slots.size
  position_lt := by
    have nonempty := Nat.zero_lt_of_lt r.position_lt
    simpa using Nat.mod_lt _ nonempty

def toList (r : Ring α) : List α :=
  r.slots.toList.drop r.position ++ r.slots.toList.take r.position

@[simp] theorem size_push (r : Ring α) (a : α) : (r.push a).size = r.size := by
  simp [size, push]

@[simp] theorem length_toList (r : Ring α) : r.toList.length = r.size := by
  have bound := r.position_lt
  simp [toList, size]
  omega

@[simp] theorem toList_ofSlots (slots : Array α) (nonempty : 0 < slots.size) :
    (ofSlots slots nonempty).toList = slots.toList := by
  simp [toList, ofSlots]

theorem toList_eq_oldest_cons (r : Ring α) : r.toList = r.oldest :: r.toList.tail := by
  have bound : r.position < r.slots.toList.length := by simpa using r.position_lt
  simp [toList, oldest, List.drop_eq_getElem_cons bound]

theorem toList_push (r : Ring α) (a : α) : (r.push a).toList = r.toList.tail ++ [a] := by
  obtain ⟨slots, position, position_lt⟩ := r
  have bound : position < slots.toList.length := by simpa using position_lt
  have written : slots.toList.set position a
      = slots.toList.take position ++ a :: slots.toList.drop (position + 1) := by
    rw [List.set_eq_take_append_cons_drop, if_pos bound]
  have front : min position slots.size = position := by omega
  by_cases last : position + 1 = slots.size
  · have rest : slots.toList.drop slots.size = [] := by simp
    simp [toList, push, written, last, rest, List.drop_eq_getElem_cons bound]
  · have next : (position + 1) % slots.size = position + 1 := Nat.mod_eq_of_lt (by omega)
    have short : (slots.toList.take position).length ≤ position + 1 := by
      rw [List.length_take]
      omega
    have dropped : (slots.toList.take position).drop (position + 1) = [] :=
      List.drop_eq_nil_of_le short
    have kept : (slots.toList.take position).take (position + 1) = slots.toList.take position :=
      List.take_of_length_le short
    simp [toList, push, written, next, front, dropped, kept, List.drop_eq_getElem_cons bound,
      List.drop_append, List.take_append]

end Ring

-- Why a sliding window cannot be built.
inductive WindowError where
  | invalidSize (size : Nat)
  | invalidPercent (percent : Nat)
  deriving DecidableEq, Repr

def WindowError.message : WindowError → String
  | invalidSize size => "sliding window size must be positive, got " ++ toString size
  | invalidPercent percent => "percentage must be within 0..=100, got " ++ toString percent

end Balancing
