import Balancing.Health.ErrorWindow
import Balancing.Proofs.Health.Sliding
import Mathlib.Algebra.Order.Field.Basic
import Mathlib.Data.Rat.Cast.Order
import Mathlib.Tactic.FieldSimp
import Mathlib.Tactic.Linarith

namespace Balancing.ErrorWindow

theorem ring_foldl (w : ErrorWindow) (outcomes : List Bool) :
    (outcomes.foldl record w).ring = w.ring.pushAll outcomes :=
  (List.foldl_hom ErrorWindow.ring fun _ _ => rfl).symm

theorem threshold_foldl (w : ErrorWindow) (outcomes : List Bool) :
    (outcomes.foldl record w).thresholdPercent = w.thresholdPercent := by
  induction outcomes generalizing w with
  | nil => rfl
  | cons isError outcomes ih => exact ih (w.record isError)

-- The number of errors is that of the slots with an error.
def Counts (w : ErrorWindow) : Prop := w.errors = w.ring.toList.count true

-- An error that is overwritten has been counted.
theorem Counts.errors_pos {w : ErrorWindow} (counts : w.Counts) (held : w.ring.oldest = true) :
    0 < w.errors := by
  rw [counts, Ring.toList_eq_oldest_cons, held, List.count_cons_self]
  exact Nat.succ_pos _

-- What is overwritten is counted off, and what is written is counted.
theorem errors_record {w : ErrorWindow} (counted : w.ring.oldest = true → 0 < w.errors)
    (isError : Bool) :
    (w.record isError).errors + w.ring.oldest.toNat = w.errors + isError.toNat := by
  unfold record
  dsimp only
  generalize w.ring.oldest = overwritten at counted
  cases overwritten <;> cases isError <;> simp at counted ⊢
  omega

theorem counts_record {w : ErrorWindow} (counts : w.Counts) (isError : Bool) :
    (w.record isError).Counts := by
  have single (b : Bool) : [b].count true = b.toNat := by cases b <;> rfl
  have step := errors_record counts.errors_pos isError
  have before : w.errors = w.ring.oldest.toNat + w.ring.toList.tail.count true := by
    rw [counts, Ring.toList_eq_oldest_cons, ← List.singleton_append, List.count_append, single]
    rfl
  have after : (w.record isError).ring.toList.count true
      = w.ring.toList.tail.count true + isError.toNat := by
    show ((w.ring.push isError).toList).count true = _
    rw [Ring.toList_push, List.count_append, single]
  rw [Counts, after]
  omega

theorem counts_foldl {w : ErrorWindow} (counts : w.Counts) (outcomes : List Bool) :
    (outcomes.foldl record w).Counts := by
  induction outcomes generalizing w with
  | nil => exact counts
  | cons isError outcomes ih => exact ih (counts_record counts isError)

theorem toList_startSlots (size seeds : Nat) : (startSlots size seeds).toList
    = List.replicate seeds true ++ List.replicate (size - seeds) false := by
  simp [startSlots]

-- They stand in front, so each outcome overwrites one of them while there are any.
theorem count_drop_startSlots (size seeds n : Nat) :
    ((startSlots size seeds).toList.drop n).count true = seeds - n := by
  simp [toList_startSlots, List.drop_append, List.count_replicate]

theorem withLivePercent_ok {size percent : Nat} (positive : 1 ≤ size) (within : percent ≤ 100) :
    ∃ fresh, withLivePercent size percent = .ok fresh ∧
      fresh.thresholdPercent = standardThreshold ∧ fresh.ring.position = 0 ∧
      fresh.ring.slots = startSlots size (size - size * percent / 100) ∧
      fresh.errors = size - size * percent / 100 := by
  have nonempty : size ≠ 0 := by omega
  simp only [withLivePercent, nonempty, dite_false, Nat.not_lt.mpr within, if_false]
  exact ⟨_, rfl, rfl, rfl, rfl, rfl⟩

theorem size_of_withLivePercent {w : ErrorWindow} {size percent : Nat}
    (made : withLivePercent size percent = .ok w) : w.size = size := by
  unfold withLivePercent at made
  split at made
  · cases made
  · split at made
    · cases made
    · cases made
      have le : size - size * percent / 100 ≤ size := Nat.sub_le ..
      simp [ErrorWindow.size, Ring.size, Ring.ofSlots, startSlots, le]

theorem size_record (w : ErrorWindow) (isError : Bool) : (w.record isError).size = w.size :=
  Ring.size_push ..

theorem withThreshold_ok (w : ErrorWindow) {percent : Nat} (within : percent ≤ 100) :
    w.withThreshold percent = .ok { w with thresholdPercent := percent } := by
  rw [withThreshold, if_neg (Nat.not_lt.mpr within)]

-- A window as it is made, with so many errors in front.
structure Fresh (w : ErrorWindow) (size seeds : Nat) : Prop where
  whole : w.size = size
  slots : w.ring.toList = (startSlots size seeds).toList
  counts : w.Counts

theorem fresh_of_slots {w : ErrorWindow} {size seeds : Nat} (le : seeds ≤ size)
    (position : w.ring.position = 0) (slots : w.ring.slots = startSlots size seeds)
    (errors : w.errors = seeds) : w.Fresh size seeds := by
  have toList : w.ring.toList = (startSlots size seeds).toList := by
    simp [Ring.toList, position, slots]
  refine ⟨?_, toList, ?_⟩
  · simp [ErrorWindow.size, Ring.size, slots, startSlots]
    omega
  · rw [Counts, errors, toList]
    exact (count_drop_startSlots size seeds 0).symm

-- What a window tells that was made with so many errors and has seen these outcomes since.
structure Shows (w : ErrorWindow) (size seeds threshold : Nat) (outcomes : List Bool) : Prop where
  whole : w.size = size
  errors : w.errors = (outcomes.rtake size).count true + (seeds - outcomes.length)
  slots : w.ring.slots.toList.count true = w.errors
  -- so counting off an error that is overwritten never goes below zero
  held : w.ring.oldest = true → 0 < w.errors
  successes : w.successes + w.errors = size
  tooMany : w.tooManyErrors ↔ (threshold / 100 : ℚ) < w.errors / size
  -- the two sides of that comparison as they are computed
  narrow : w.errors * 100 ≤ 100 * size ∧ w.size * w.thresholdPercent ≤ 100 * size

theorem shows_foldl {w : ErrorWindow} {size seeds : Nat} (positive : 1 ≤ size)
    (fresh : w.Fresh size seeds) (within : w.thresholdPercent ≤ 100) (outcomes : List Bool) :
    (outcomes.foldl record w).Shows size seeds w.thresholdPercent outcomes := by
  have counts := counts_foldl fresh.counts outcomes
  have threshold := threshold_foldl w outcomes
  have whole : (outcomes.foldl record w).size = size := by
    rw [ErrorWindow.size, ring_foldl, Ring.size_pushAll]
    exact fresh.whole
  have errors : (outcomes.foldl record w).errors
      = (outcomes.rtake size).count true + (seeds - outcomes.length) := by
    have ring : w.ring.size = size := fresh.whole
    rw [counts, ring_foldl, Ring.toList_pushAll_split, List.count_append, fresh.slots,
      count_drop_startSlots, ring, Nat.add_comm]
  have le : (outcomes.foldl record w).errors ≤ size := by
    have length := (outcomes.foldl record w).ring.length_toList
    rw [counts, ← whole, ErrorWindow.size, ← length]
    exact List.count_le_length
  generalize outcomes.foldl record w = v at *
  refine ⟨whole, errors, ?_, counts.errors_pos, ?_, ?_, ?_, ?_⟩
  · rw [counts, v.ring.slots_perm.count_eq]
  · rw [ErrorWindow.successes, whole]
    omega
  · have size_pos : (0 : ℚ) < size := by exact_mod_cast positive
    have turned : (w.thresholdPercent * size : ℚ) < v.errors * 100 ↔
        w.thresholdPercent * size < v.errors * 100 := by
      exact_mod_cast Iff.rfl
    rw [tooManyErrors, decide_eq_true_eq, whole, threshold,
      div_lt_div_iff₀ (by norm_num) size_pos, turned, Nat.mul_comm size]
  · omega
  · rw [whole, threshold, Nat.mul_comm 100]
    exact Nat.mul_le_mul_left size within

theorem errors_among_last {size percent : Nat} (positive : 1 ≤ size) (within : percent ≤ 100)
    (outcomes : List Bool) :
    let seeds := size - size * percent / 100
    ∃ fresh, withLivePercent size percent = .ok fresh ∧
      (outcomes.foldl record fresh).Shows size seeds standardThreshold outcomes ∧
      ∀ threshold ≤ 100, ∃ start, fresh.withThreshold threshold = .ok start ∧
        (outcomes.foldl record start).Shows size seeds threshold outcomes := by
  intro seeds
  obtain ⟨fresh, made, standard, position, slots, errors⟩ := withLivePercent_ok positive within
  have start : fresh.Fresh size seeds := fresh_of_slots (Nat.sub_le ..) position slots errors
  refine ⟨fresh, made, ?_, fun threshold within => ?_⟩
  · rw [← standard]
    exact shows_foldl positive start (by rw [standard]; decide) outcomes
  · have again : Fresh { fresh with thresholdPercent := threshold } size seeds :=
      ⟨start.whole, start.slots, start.counts⟩
    exact ⟨_, withThreshold_ok fresh within, shows_foldl positive again within outcomes⟩

-- Three slots, one of them an error at first. Of four outcomes the last three are counted, and two
-- errors of three are more than 66 percent of them.
theorem two_of_three : ∃ fresh, withLivePercent 3 90 = .ok fresh ∧
    ([true, false, true, true].foldl record fresh).errors = 2 ∧
    ∃ start, fresh.withThreshold 66 = .ok start ∧
      ([true, false, true, true].foldl record start).tooManyErrors := by
  obtain ⟨fresh, made, shows, thresholds⟩ :=
    errors_among_last (by decide : 1 ≤ 3) (by decide : 90 ≤ 100) [true, false, true, true]
  obtain ⟨start, set, above⟩ := thresholds 66 (by decide)
  refine ⟨fresh, made, ?_, start, set, ?_⟩
  · rw [shows.errors]
    decide
  · rw [above.tooMany, above.errors]
    norm_num [List.rtake]

end Balancing.ErrorWindow
