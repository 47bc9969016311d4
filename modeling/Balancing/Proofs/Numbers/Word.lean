import Balancing.Numbers.Word
import Mathlib.Algebra.BigOperators.Group.List.Basic
import Mathlib.Algebra.GroupWithZero.Nat

namespace Balancing.Word

theorem ofNat_of_lt {n : Nat} (fits : n < 2 ^ 64) (otherwise : Breakdown) :
    ofNat otherwise n = .ok (.ofNat n) := if_pos fits

theorem ofNat_of_le {n : Nat} (beyond : 2 ^ 64 ≤ n) (otherwise : Breakdown) :
    ofNat otherwise n = .error otherwise := if_neg (Nat.not_lt.mpr beyond)

theorem toNat_add_of_lt {a b : UInt64} (fits : a.toNat + b.toNat < 2 ^ 64) :
    (a + b).toNat = a.toNat + b.toNat := by
  rw [UInt64.toNat_add]
  exact Nat.mod_eq_of_lt fits

theorem add_of_lt {a b : UInt64} (fits : a.toNat + b.toNat < 2 ^ 64) : add a b = .ok (a + b) := by
  rw [add, ofNat_of_lt fits, ← toNat_add_of_lt fits, UInt64.ofNat_toNat]

theorem add_of_le {a b : UInt64} (beyond : 2 ^ 64 ≤ a.toNat + b.toNat) : add a b = .error .sum :=
  ofNat_of_le beyond .sum

theorem sub_of_le {a b : UInt64} (le : b.toNat ≤ a.toNat) : sub a b = .ok (a - b) :=
  if_pos (UInt64.le_iff_toNat_le.mpr le)

theorem mapM_ofNat_of_lt {otherwise : Breakdown} {ns : List Nat} (fits : ∀ n ∈ ns, n < 2 ^ 64) :
    ns.mapM (ofNat otherwise) = .ok (ns.map .ofNat) := by
  induction ns with
  | nil => rfl
  | cons n ns ih =>
    rw [List.mapM_cons, ofNat_of_lt (fits n List.mem_cons_self),
      ih fun m member => fits m (List.mem_cons_of_mem n member)]
    rfl

theorem mapM_ofNat_of_le {otherwise : Breakdown} {ns : List Nat}
    (beyond : ∃ n ∈ ns, 2 ^ 64 ≤ n) : ns.mapM (ofNat otherwise) = .error otherwise := by
  induction ns with
  | nil => simp at beyond
  | cons n ns ih =>
    rw [List.mapM_cons]
    by_cases fits : n < 2 ^ 64
    · obtain ⟨m, member, beyond⟩ := beyond
      have later : m ∈ ns := by
        cases member with
        | head => omega
        | tail _ later => exact later
      rw [ofNat_of_lt fits, ih ⟨m, later, beyond⟩]
      rfl
    · rw [ofNat_of_le (by omega)]
      rfl

theorem map_toNat_ofNat {ns : List Nat} (fits : ∀ n ∈ ns, n < 2 ^ 64) :
    (ns.map UInt64.ofNat).map (·.toNat) = ns := by
  have same : ∀ n ∈ ns, ((·.toNat) ∘ UInt64.ofNat) n = id n := fun n member =>
    UInt64.toNat_ofNat_of_lt' (fits n member)
  rw [List.map_map, List.map_congr_left same, List.map_id]

-- A chain of sums is one sum of what comes out.
theorem foldlM_add (ws : List UInt64) (start : UInt64) :
    ws.foldlM add start = ofNat .sum (start.toNat + (ws.map (·.toNat)).sum) := by
  induction ws generalizing start with
  | nil =>
    rw [List.map_nil, List.sum_nil, Nat.add_zero, ofNat_of_lt start.toNat_lt,
      UInt64.ofNat_toNat]
    rfl
  | cons weight ws ih =>
    rw [List.foldlM_cons, List.map_cons, List.sum_cons]
    by_cases fits : start.toNat + weight.toNat < 2 ^ 64
    · have added := add_of_lt fits
      rw [added, ← Nat.add_assoc, ← toNat_add_of_lt fits]
      exact ih (start + weight)
    · rw [add_of_le (by omega), ofNat_of_le (by omega)]
      rfl

end Balancing.Word
