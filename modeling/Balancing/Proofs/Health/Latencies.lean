import Balancing.Health.LatencyWindow
import Balancing.Proofs.Health.Sliding
import Balancing.Proofs.Numbers.Word
import Mathlib.Algebra.GroupWithZero.Nat
import Mathlib.Algebra.Order.BigOperators.Group.List
import Mathlib.Algebra.Order.Group.Nat
import Mathlib.Data.List.Induction

namespace Balancing.LatencyWindow

theorem ring_record (w : LatencyWindow) (micros : UInt64) :
    (w.record micros).ring = w.ring.push micros := by
  unfold record
  dsimp only
  split <;> rfl

theorem ring_foldl (w : LatencyWindow) (samples : List UInt64) :
    (samples.foldl record w).ring = w.ring.pushAll samples :=
  (List.foldl_hom LatencyWindow.ring fun w micros => (ring_record w micros).symm).symm

-- In numbers without a bound.
def sum (samples : List UInt64) : Nat := (samples.map (·.toNat)).sum

@[simp] theorem sum_cons (micros : UInt64) (samples : List UInt64) :
    sum (micros :: samples) = micros.toNat + sum samples := by simp [sum]

@[simp] theorem sum_append (one two : List UInt64) : sum (one ++ two) = sum one + sum two := by
  simp [sum]

@[simp] theorem sum_zeros (n : Nat) : sum (List.replicate n 0) = 0 := by simp [sum]

theorem sum_le {samples : List UInt64} {most : Nat}
    (bounded : ∀ micros ∈ samples, micros.toNat ≤ most) :
    sum samples ≤ samples.length * most := by
  have each : ∀ n ∈ samples.map (·.toNat), n ≤ most := by
    intro n member
    obtain ⟨micros, present, rfl⟩ := List.mem_map.mp member
    exact bounded micros present
  simpa [sum] using List.sum_le_card_nsmul _ _ each

-- Neither step to the next total leaves 64 bits.
structure Fits (w : LatencyWindow) (micros : UInt64) : Prop where
  counted : w.ring.oldest.toNat ≤ w.total.toNat
  sum : w.total.toNat - w.ring.oldest.toNat + micros.toNat < 2 ^ 64

-- A window that has not broken, whose total is that of its slots.
structure Sound (w : LatencyWindow) : Prop where
  unbroken : w.broken = none
  total : w.total.toNat = sum w.ring.toList

section

variable {w : LatencyWindow} {micros : UInt64}

theorem toNat_others (fits : w.Fits micros) :
    (w.total - w.ring.oldest).toNat = w.total.toNat - w.ring.oldest.toNat :=
  UInt64.toNat_sub_of_le _ _ (UInt64.le_iff_toNat_le.mpr fits.counted)

theorem record_of_fits (unbroken : w.broken = none) (fits : w.Fits micros) :
    w.record micros = { w with
      ring := w.ring.push micros
      total := w.total - w.ring.oldest + micros
      filled := w.filled || (w.ring.push micros).position = 0 } := by
  have room : (w.total - w.ring.oldest).toNat + micros.toNat < 2 ^ 64 := by
    rw [toNat_others fits]
    exact fits.sum
  have next : w.next micros = .ok (w.total - w.ring.oldest + micros) := by
    simp only [LatencyWindow.next, unbroken, Option.isSome_none, Bool.false_eq_true, if_false,
      Word.sub_of_le fits.counted]
    exact Word.add_of_lt room
  simp only [record, next]

theorem fits_of_sound (sound : w.Sound) (room : sum (w.ring.push micros).toList < 2 ^ 64) :
    w.Fits micros := by
  have total := sound.total
  have single : sum [micros] = micros.toNat := by simp [sum]
  rw [Ring.toList_push, sum_append, single] at room
  rw [Ring.toList_eq_oldest_cons, sum_cons] at total
  constructor <;> omega

theorem sound_record (sound : w.Sound) (room : sum (w.ring.push micros).toList < 2 ^ 64) :
    (w.record micros).Sound := by
  have fits := fits_of_sound sound room
  have others := toNat_others fits
  have total := sound.total
  have single : sum [micros] = micros.toNat := by simp [sum]
  rw [record_of_fits sound.unbroken fits]
  refine ⟨sound.unbroken, ?_⟩
  show (w.total - w.ring.oldest + micros).toNat = sum (w.ring.push micros).toList
  rw [UInt64.toNat_add, others, Nat.mod_eq_of_lt fits.sum, Ring.toList_push, sum_append, single]
  rw [Ring.toList_eq_oldest_cons, sum_cons] at total
  omega

-- Once it has been filled a window stays so.
theorem filled_record (filled : w.filled = true) : (w.record micros).filled = true := by
  unfold record
  dsimp only
  split
  · simp [filled]
  · exact filled

theorem filled_foldl (filled : w.filled = true) (samples : List UInt64) :
    (samples.foldl record w).filled = true := by
  induction samples generalizing w with
  | nil => exact filled
  | cons micros samples ih => exact ih (filled_record filled)

-- So many samples have been taken since the window was made.
structure Taken (w : LatencyWindow) (n : Nat) : Prop where
  position : w.ring.position = n % w.size
  filled : w.filled ↔ w.size ≤ n

-- The position is back at the first slot for the first time when there are as many as slots.
theorem taken_record {n : Nat} (taken : w.Taken n) (unbroken : w.broken = none)
    (fits : w.Fits micros) : (w.record micros).Taken (n + 1) := by
  rw [record_of_fits unbroken fits]
  have size : (w.ring.push micros).size = w.size := Ring.size_push ..
  have positive : 0 < w.size := w.ring.size_pos
  have next : (w.ring.push micros).position = (n + 1) % w.size := by
    have moved : (w.ring.push micros).position = (w.ring.position + 1) % w.size := rfl
    rw [moved, taken.position, Nat.mod_add_mod]
  refine ⟨?_, ?_⟩
  · show (w.ring.push micros).position = (n + 1) % (w.ring.push micros).size
    rw [size, next]
  · show (w.filled || decide ((w.ring.push micros).position = 0)) = true ↔
      (w.ring.push micros).size ≤ n + 1
    rw [size, next, Bool.or_eq_true, decide_eq_true_eq, taken.filled]
    by_cases more : n + 1 < w.size
    · rw [Nat.mod_eq_of_lt more]
      omega
    by_cases full : n + 1 = w.size
    · simp [full]
    · omega

end

-- No samples that follow on each other and fit the window add up to 2^64.
def Moderate (size : Nat) (samples : List UInt64) : Prop :=
  ∀ run, run <:+: samples → run.length ≤ size → sum run < 2 ^ 64

theorem Moderate.of_part {size : Nat} {part samples : List UInt64}
    (moderate : Moderate size samples) (within : part <:+: samples) : Moderate size part :=
  fun run inside fits => moderate run (inside.trans within) fits

theorem Moderate.rtake {size : Nat} {samples : List UInt64} (moderate : Moderate size samples) :
    sum (samples.rtake size) < 2 ^ 64 :=
  moderate _ (List.drop_suffix ..).isInfix (Ring.length_rtake_le samples size)

theorem moderate_of_le {size most : Nat} {samples : List UInt64}
    (bounded : ∀ micros ∈ samples, micros.toNat ≤ most) (fits : size * most < 2 ^ 64) :
    Moderate size samples := by
  intro run inside short
  have le : sum run ≤ run.length * most :=
    sum_le fun micros present => bounded micros (inside.subset present)
  have more : run.length * most ≤ size * most := Nat.mul_le_mul_right most short
  omega

-- A window as it is made.
structure Fresh (w : LatencyWindow) (size : Nat) : Prop where
  whole : w.size = size
  slots : w.ring.toList = List.replicate size 0
  total : w.total = 0
  unbroken : w.broken = none
  taken : w.Taken 0

theorem empty_ok {size : Nat} (positive : 1 ≤ size) :
    ∃ fresh, empty size = .ok fresh ∧ fresh.Fresh size := by
  have nonempty : size ≠ 0 := by omega
  simp only [empty, nonempty, dite_false]
  refine ⟨_, rfl, ?_, ?_, rfl, rfl, ?_, ?_⟩
  · simp [LatencyWindow.size, Ring.size, Ring.ofSlots]
  · simp
  · simp [Ring.ofSlots]
  · simp [LatencyWindow.size, Ring.size, Ring.ofSlots, nonempty]

theorem fresh_of_empty {w : LatencyWindow} {size : Nat} (made : empty size = .ok w) :
    w.Fresh size := by
  by_cases none : size = 0
  · rw [empty, dif_pos none] at made
    cases made
  · obtain ⟨fresh, same, starts⟩ := empty_ok (Nat.one_le_iff_ne_zero.mpr none)
    cases made.symm.trans same
    exact starts

-- What a window tells that has taken these samples since it was made.
structure Shows (w : LatencyWindow) (size : Nat) (samples : List UInt64) : Prop where
  whole : w.size = size
  unbroken : w.broken = none
  total : w.total.toNat = sum (samples.rtake size)
  mean : w.mean.toNat = sum (samples.rtake size) / size
  warmingUp : w.isWarmingUp ↔ samples.length < size

namespace Fresh

variable {w : LatencyWindow} {size : Nat} {samples : List UInt64}

theorem sound (fresh : w.Fresh size) : w.Sound := by
  refine ⟨fresh.unbroken, ?_⟩
  rw [fresh.total, fresh.slots, sum_zeros]
  rfl

theorem sum_slots (fresh : w.Fresh size) (samples : List UInt64) :
    sum (samples.foldl record w).ring.toList = sum (samples.rtake size) := by
  have ring : w.ring.size = size := fresh.whole
  rw [ring_foldl, Ring.toList_pushAll_split, fresh.slots, List.drop_replicate, sum_append,
    sum_zeros, ring, Nat.zero_add]

theorem size_foldl (fresh : w.Fresh size) (samples : List UInt64) :
    (samples.foldl record w).size = size := by
  rw [LatencyWindow.size, ring_foldl, Ring.size_pushAll]
  exact fresh.whole

-- The slots once one more sample has been written are the last samples with it.
theorem room (fresh : w.Fresh size) {earlier : List UInt64} {micros : UInt64}
    (moderate : Moderate size (earlier ++ [micros])) :
    sum ((earlier.foldl record w).ring.push micros).toList < 2 ^ 64 := by
  have slots := fresh.sum_slots (earlier ++ [micros])
  rw [List.foldl_append, List.foldl_cons, List.foldl_nil, ring_record] at slots
  rw [slots]
  exact moderate.rtake

theorem kept (fresh : w.Fresh size) (moderate : Moderate size samples) :
    (samples.foldl record w).Sound ∧ (samples.foldl record w).Taken samples.length := by
  induction samples using List.reverseRecOn with
  | nil => exact ⟨fresh.sound, fresh.taken⟩
  | append_singleton earlier micros ih =>
    obtain ⟨sound, taken⟩ := ih (moderate.of_part (List.prefix_append ..).isInfix)
    have room := fresh.room moderate
    rw [List.foldl_append, List.length_append]
    exact ⟨sound_record sound room,
      taken_record taken sound.unbroken (fits_of_sound sound room)⟩

theorem shows (fresh : w.Fresh size) (moderate : Moderate size samples) :
    (samples.foldl record w).Shows size samples := by
  obtain ⟨sound, taken⟩ := fresh.kept moderate
  have whole := fresh.size_foldl samples
  have total := sound.total.trans (fresh.sum_slots samples)
  refine ⟨whole, sound.unbroken, total, ?_, ?_⟩
  · have lt : sum (samples.rtake size) / size < 2 ^ 64 :=
      Nat.lt_of_le_of_lt (Nat.div_le_self ..) moderate.rtake
    rw [mean, UInt64.toNat_ofNat', whole, total, Nat.mod_eq_of_lt lt]
  · rw [← Nat.not_le, ← whole, ← taken.filled, isWarmingUp, Bool.not_eq_true', Bool.not_eq_true]

theorem fits {earlier : List UInt64} {micros : UInt64} (fresh : w.Fresh size)
    (moderate : Moderate size (earlier ++ [micros])) :
    (earlier.foldl record w).Fits micros :=
  fits_of_sound (fresh.kept (moderate.of_part (List.prefix_append ..).isInfix)).1
    (fresh.room moderate)

end Fresh

theorem total_of_last {size : Nat} (positive : 1 ≤ size) {samples : List UInt64}
    (moderate : Moderate size samples) :
    ∃ fresh, empty size = .ok fresh ∧
      (samples.foldl record fresh).Shows size samples ∧
      (∀ earlier micros later, samples = earlier ++ micros :: later →
        (earlier.foldl record fresh).Fits micros) ∧
      ∀ later, ((samples ++ later).foldl record fresh).isWarmingUp →
        (samples.foldl record fresh).isWarmingUp := by
  obtain ⟨w, made, fresh⟩ := empty_ok positive
  refine ⟨w, made, fresh.shows moderate, ?_, fun later still => ?_⟩
  · intro earlier micros later split
    refine fresh.fits (moderate.of_part ⟨[], later, ?_⟩)
    simp [split]
  · rw [List.foldl_append] at still
    cases filled : (samples.foldl record w).filled with
    | false => simp [isWarmingUp, filled]
    | true => simp [isWarmingUp, filled_foldl filled] at still

-- Five samples of 2^62 microseconds are more than 64 bits hold, but no two of them.
theorem halves_of_the_range : ∃ fresh, empty 2 = .ok fresh ∧
    ((List.replicate 5 (.ofNat (2 ^ 62))).foldl record fresh).total.toNat = 2 ^ 63 ∧
    ((List.replicate 5 (.ofNat (2 ^ 62))).foldl record fresh).mean.toNat = 2 ^ 62 := by
  have each : ∀ micros ∈ List.replicate 5 (UInt64.ofNat (2 ^ 62)), micros.toNat ≤ 2 ^ 62 := by
    intro micros present
    rw [List.eq_of_mem_replicate present]
    decide
  obtain ⟨fresh, made, shows, -, -⟩ :=
    total_of_last (by decide : 1 ≤ 2) (moderate_of_le each (by decide))
  refine ⟨fresh, made, ?_, ?_⟩
  · rw [shows.total]
    decide
  · rw [shows.mean]
    decide

-- A window that no samples up to this many microseconds can break.
structure Withstands (w : LatencyWindow) (most : Nat) : Prop extends Sound w where
  bounded : ∀ micros ∈ w.ring.toList, micros.toNat ≤ most
  room : w.size * most < 2 ^ 64

namespace Withstands

variable {w : LatencyWindow} {most : Nat}

theorem of_fresh {size : Nat} (fresh : w.Fresh size) (room : size * most < 2 ^ 64) :
    w.Withstands most := by
  refine ⟨fresh.sound, ?_, by rwa [fresh.whole]⟩
  intro micros member
  rw [fresh.slots] at member
  rw [List.eq_of_mem_replicate member]
  exact Nat.zero_le most

theorem record (stands : w.Withstands most) {micros : UInt64} (le : micros.toNat ≤ most) :
    (w.record micros).Withstands most := by
  have bounded : ∀ other ∈ (w.ring.push micros).toList, other.toNat ≤ most := by
    intro other member
    rw [Ring.toList_push] at member
    cases List.mem_append.mp member with
    | inl kept => exact stands.bounded other (List.mem_of_mem_tail kept)
    | inr last =>
      rw [List.mem_singleton.mp last]
      exact le
  have total : sum (w.ring.push micros).toList ≤ w.size * most := by
    have bound := sum_le bounded
    rwa [Ring.length_toList, Ring.size_push] at bound
  refine ⟨sound_record stands.toSound (Nat.lt_of_le_of_lt total stands.room), ?_, ?_⟩
  · rw [ring_record]
    exact bounded
  · have size : (w.record micros).size = w.size := by
      rw [LatencyWindow.size, ring_record, Ring.size_push]
      rfl
    rw [size]
    exact stands.room

-- Then no mean is above all samples.
theorem mean_le (stands : w.Withstands most) : w.mean.toNat ≤ most := by
  have positive : 0 < w.size := w.ring.size_pos
  have total : w.total.toNat ≤ w.size * most := by
    have bound := sum_le stands.bounded
    rw [Ring.length_toList] at bound
    rw [stands.total]
    exact bound
  have small : w.total.toNat / w.size ≤ w.total.toNat := Nat.div_le_self ..
  have below := w.total.toNat_lt
  rw [mean, UInt64.toNat_ofNat', Nat.mod_eq_of_lt (by omega)]
  exact Nat.div_le_of_le_mul total

end Withstands

end Balancing.LatencyWindow
