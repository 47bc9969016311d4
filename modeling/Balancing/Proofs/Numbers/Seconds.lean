import Balancing.Duration
import Balancing.Proofs.Numbers.Representable

namespace Balancing

theorem Binary64.finite_of_isFactor {x : Binary64} (factor : x.isFactor) :
    ∃ m e, x = finite false m e := by
  simp only [isFactor, Bool.and_eq_true] at factor
  obtain ⟨isFinite, positive⟩ := factor
  have above := (lt_iff rfl isFinite).mp positive
  cases x with
  | nan => cases isFinite
  | infinite negative => cases isFinite
  | finite negative m e =>
    cases negative with
    | false => exact ⟨m, e, rfl⟩
    | true =>
      have power_pos : (0 : ℚ) < 2 ^ e := by positivity
      simp only [value, zero, Bool.false_eq_true, if_true, if_false, Nat.cast_zero, zero_mul,
        neg_mul] at above
      have : (0 : ℚ) ≤ m * 2 ^ e := by positivity
      linarith

theorem cast_nanosPerSecond : ((nanosPerSecond : Nat) : ℚ) = 1000000000 := by
  norm_num [nanosPerSecond]

theorem seconds_split (n : Nat) : (n / nanosPerSecond : ℚ)
    = (n / nanosPerSecond : Nat) + (n % nanosPerSecond : Nat) / nanosPerSecond := by
  have split : (n : ℚ)
      = nanosPerSecond * (n / nanosPerSecond : Nat) + (n % nanosPerSecond : Nat) := by
    exact_mod_cast (Nat.div_add_mod n nanosPerSecond).symm
  rw [split, cast_nanosPerSecond]
  field_simp

-- The seconds of a duration are never out of range.
theorem inSeconds_finite (d : Duration) : ∃ m e, inSeconds d.nanoseconds = .finite false m e := by
  have second_pos : 0 < nanosPerSecond := by norm_num [nanosPerSecond]
  have second_lt : nanosPerSecond < 2 ^ 53 := by norm_num [nanosPerSecond]
  have whole_lt : d.nanoseconds / nanosPerSecond < 2 ^ 64 :=
    (Nat.div_lt_iff_lt_mul second_pos).mpr d.fits
  have rest_lt : d.nanoseconds % nanosPerSecond < nanosPerSecond := Nat.mod_lt _ second_pos
  unfold inSeconds
  generalize d.nanoseconds / nanosPerSecond = whole at whole_lt
  generalize d.nanoseconds % nanosPerSecond = rest at rest_lt
  have power (k : Int) (low : 0 ≤ k) : Binary64.Representable (2 ^ k) :=
    ⟨1, k, by norm_num, by unfold Binary64.leastExponent; omega, by simp⟩
  have room (k : Int) (high : k < 1024) : (2 : ℚ) ^ k < Binary64.limit :=
    (zpow_lt_zpow_right₀ (by norm_num) high).trans_le (Binary64.le_limit (le_refl _))
  have whole_le : (whole / (1 : Nat) : ℚ) ≤ 2 ^ (64 : Int) := by
    rw [Nat.cast_one, div_one]
    exact_mod_cast whole_lt.le
  have rest_le : (rest / nanosPerSecond : ℚ) ≤ 2 ^ (0 : Int) := by
    rw [zpow_zero, div_le_one (by exact_mod_cast second_pos)]
    exact_mod_cast rest_lt.le
  obtain ⟨m, e, first, below⟩ := Binary64.value_ofRatio_le Nat.one_pos (power 64 (by decide))
    (room 64 (by decide)) whole_le
  obtain ⟨k, f, second, small⟩ := Binary64.value_ofRatio_le second_pos (power 0 (le_refl _))
    (room 0 (by decide)) rest_le
  obtain ⟨num, den, den_pos, sum, made⟩ := Binary64.add_finite (s := false) (t := false) m k e f
    rfl (add_nonneg (Binary64.scaled_nonneg m e) (Binary64.scaled_nonneg k f))
  have total : (num / den : ℚ) ≤ 2 ^ (65 : Int) := by
    rw [sum]
    show (m * 2 ^ e + k * 2 ^ f : ℚ) ≤ _
    calc (m * 2 ^ e + k * 2 ^ f : ℚ) ≤ 2 ^ (64 : Int) + 2 ^ (0 : Int) := add_le_add below small
      _ ≤ 2 ^ (65 : Int) := by norm_num
  obtain ⟨l, g, rounded, _⟩ := Binary64.value_ofRatio_le den_pos (power 65 (by decide))
    (room 65 (by decide)) total
  have exact_whole : Binary64.ofNat whole = .finite false m e := first
  rw [Binary64.div_ofNat (rest_lt.trans second_lt) second_pos second_lt, exact_whole, second, made]
  exact ⟨l, g, rounded⟩

-- Below 2^23 seconds a time is known to half a nanosecond.
theorem inSeconds_le {n : Nat} (small : n < 2 ^ 23 * nanosPerSecond) :
    ∃ m e, inSeconds n = .finite false m e ∧ Binary64.Representable (m * 2 ^ e) ∧
      (m : ℚ) * 2 ^ e < (n + 1 / 2) / nanosPerSecond := by
  have second_pos : 0 < nanosPerSecond := by norm_num [nanosPerSecond]
  have second_lt : nanosPerSecond < 2 ^ 53 := by norm_num [nanosPerSecond]
  have whole_lt : n / nanosPerSecond < 2 ^ 23 := (Nat.div_lt_iff_lt_mul second_pos).mpr small
  have rest_lt : n % nanosPerSecond < nanosPerSecond := Nat.mod_lt _ second_pos
  have total := seconds_split n
  unfold inSeconds
  generalize n / nanosPerSecond = whole at whole_lt total
  generalize n % nanosPerSecond = rest at rest_lt total
  obtain ⟨m, e, first, exact⟩ := Binary64.ofNat_exact (whole_lt.trans (by decide))
  obtain ⟨k, f, second, near⟩ :=
    Binary64.abs_value_ofRatio_sub_le second_pos (rest_lt.trans second_lt) second_lt
  obtain ⟨num, den, den_pos, sum, made⟩ := Binary64.add_finite (s := false) (t := false) m k e f
    rfl (add_nonneg (Binary64.scaled_nonneg m e) (Binary64.scaled_nonneg k f))
  have near := (abs_le.mp near).2
  have rest_le : (rest + 1 : ℚ) ≤ nanosPerSecond := by exact_mod_cast rest_lt
  have whole_le : (whole + 1 : ℚ) ≤ 2 ^ 23 := by exact_mod_cast whole_lt
  have sum : (num / den : ℚ) = m * 2 ^ e + k * 2 ^ f := sum
  rw [exact] at sum
  rw [cast_nanosPerSecond] at near rest_le total
  have below : (num / den : ℚ) < 2 ^ (23 : Int) := by
    norm_num at near whole_le ⊢
    linarith
  obtain ⟨l, g, rounded, grid, close⟩ :=
    Binary64.representable_ofRatio den_pos (by decide) (by decide) below
  refine ⟨l, g, ?_, grid, ?_⟩
  · rw [first, Binary64.div_ofNat (rest_lt.trans second_lt) second_pos second_lt, second, made,
      rounded]
  · rw [cast_nanosPerSecond, add_div, total]
    norm_num at near close ⊢
    linarith

namespace Duration

-- The whole nanosecond nearest to so many seconds.
def nearestNanosecond (m : Nat) (e : Int) : Nat :=
  roundHalfEven ((Binary64.ratio m e).1 * nanosPerSecond) (Binary64.ratio m e).2

theorem nearest?_finite (m : Nat) (e : Int) :
    nearest? (.finite false m e) = ofNanoseconds? (nearestNanosecond m e) := by
  simp only [nearest?, Bool.false_and, Bool.false_eq_true, if_false, nearestNanosecond]

theorem nanoseconds_of_some {n : Nat} {d : Duration} (found : ofNanoseconds? n = some d) :
    d.nanoseconds = n := by
  unfold ofNanoseconds? at found
  split at found
  · cases found
    rfl
  · cases found

theorem nearest?_le {m : Nat} {e : Int} {n : Nat}
    (below : (m : ℚ) * 2 ^ e < (n + 1 / 2) / nanosPerSecond) {d : Duration}
    (found : nearest? (.finite false m e) = some d) : d.nanoseconds ≤ n := by
  have second_pos : (0 : ℚ) < nanosPerSecond := by
    rw [cast_nanosPerSecond]
    norm_num
  rw [nearest?_finite] at found
  rw [nanoseconds_of_some found, nearestNanosecond]
  refine roundHalfEven_le (Binary64.ratio_snd_pos m e) ?_
  push_cast
  rw [mul_div_right_comm, Binary64.ratio_div]
  exact (lt_div_iff₀ second_pos).mp below

-- A factor of at most one makes no such time longer.
theorem scale_le (d : Duration) {factor : Binary64} (le : factor.isFactor → factor.value ≤ 1)
    (small : d.nanoseconds < 2 ^ 23 * nanosPerSecond) :
    (d.scale factor).nanoseconds ≤ d.nanoseconds := by
  unfold scale
  split
  · rename_i isFactor
    obtain ⟨m, e, seconds, grid, near⟩ := inSeconds_le small
    have lt : (m : ℚ) * 2 ^ e < Binary64.limit := by
      have small : (d.nanoseconds : ℚ) < 2 ^ 23 * nanosPerSecond := by exact_mod_cast small
      refine (near.trans ?_).trans_le (Binary64.le_limit (by decide : (64 : Int) ≤ 1024))
      rw [cast_nanosPerSecond] at small ⊢
      rw [div_lt_iff₀ (by norm_num)]
      norm_num
      linarith
    obtain ⟨k, g, rfl⟩ := Binary64.finite_of_isFactor isFactor
    obtain ⟨n, f, scaled, smaller⟩ := Binary64.mul_le grid lt (le isFactor)
    rw [seconds, scaled]
    cases found : nearest? (.finite false n f) with
    | none => exact le_refl _
    | some d' => exact nearest?_le (smaller.trans_lt near) found
  · exact le_refl _

-- What a usable factor makes of a time: the nearest nanosecond to the product, which is neither
-- negative nor undefined, or the time itself where that is no duration.
theorem scale_cases (d : Duration) {factor : Binary64} (usable : factor.isFactor) :
    let product := (inSeconds d.nanoseconds).mul factor
    product = .infinite false ∧ d.scale factor = d ∨
    ∃ m e, product = .finite false m e ∧
      ((d.scale factor).nanoseconds = nearestNanosecond m e ∨
        2 ^ 64 * nanosPerSecond ≤ nearestNanosecond m e ∧ d.scale factor = d) := by
  intro product
  have scaled : d.scale factor = (nearest? product).getD d := if_pos usable
  obtain ⟨m, e, seconds⟩ := inSeconds_finite d
  obtain ⟨n, f, rfl⟩ := Binary64.finite_of_isFactor usable
  have cases : product = .infinite false ∨ ∃ k g, product = .finite false k g := by
    simp only [product, seconds]
    exact Binary64.mul_cases m n e f
  rcases cases with beyond | ⟨k, g, made⟩
  · refine .inl ⟨beyond, ?_⟩
    rw [scaled, beyond]
    rfl
  · refine .inr ⟨k, g, made, ?_⟩
    rw [scaled, made, nearest?_finite, ofNanoseconds?]
    split
    · exact .inl rfl
    · rename_i large
      exact .inr ⟨Nat.not_lt.mp large, rfl⟩

end Duration

end Balancing
