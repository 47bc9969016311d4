import Balancing.Numbers.Binary64
import Mathlib.Algebra.Order.Field.Power
import Mathlib.Data.Int.Log
import Mathlib.Data.Rat.Floor
import Mathlib.Tactic.FieldSimp
import Mathlib.Tactic.Linarith
import Mathlib.Tactic.Positivity

namespace Balancing

section

variable {num den num' den' : Nat}

theorem roundHalfEven_mul_left {k : Nat} (positive : 0 < k) (num den : Nat) :
    roundHalfEven (k * num) (k * den) = roundHalfEven num den := by
  have below : 2 * (k * (num % den)) < k * den ↔ 2 * (num % den) < den := by
    rw [Nat.mul_left_comm]
    exact Nat.mul_lt_mul_left positive
  have above : k * den < 2 * (k * (num % den)) ↔ den < 2 * (num % den) := by
    rw [Nat.mul_left_comm 2]
    exact Nat.mul_lt_mul_left positive
  simp only [roundHalfEven, Nat.mul_div_mul_left _ _ positive, Nat.mul_mod_mul_left, below, above]

theorem roundHalfEven_congr (pos : 0 < den) (pos' : 0 < den') (same : num * den' = num' * den) :
    roundHalfEven num den = roundHalfEven num' den' := by
  calc roundHalfEven num den
      = roundHalfEven (den' * num) (den' * den) := (roundHalfEven_mul_left pos' ..).symm
    _ = roundHalfEven (den * num') (den * den') := by
      rw [Nat.mul_comm den' num, same, Nat.mul_comm num' den, Nat.mul_comm den' den]
    _ = roundHalfEven num' den' := roundHalfEven_mul_left pos ..

theorem roundHalfEven_one (num : Nat) : roundHalfEven num 1 = num := by
  simp [roundHalfEven, Nat.mod_one]

theorem abs_roundHalfEven_sub_le (num : Nat) (pos : 0 < den) :
    |(roundHalfEven num den : ℚ) - num / den| ≤ 1 / 2 := by
  have split : (num : ℚ) = den * (num / den : Nat) + (num % den : Nat) := by
    exact_mod_cast (Nat.div_add_mod num den).symm
  have den_pos : (0 : ℚ) < den := by exact_mod_cast pos
  have ratio : (num : ℚ) / den = (num / den : Nat) + (num % den : Nat) / (den : ℚ) := by
    rw [split]
    field_simp
  have rest : ((num % den : Nat) : ℚ) / den * den = (num % den : Nat) := by
    field_simp
  have nonneg : (0 : ℚ) ≤ ((num % den : Nat) : ℚ) / den := by positivity
  rw [ratio, abs_le]
  unfold roundHalfEven
  dsimp only
  split
  · rename_i low
    have low : 2 * ((num % den : Nat) : ℚ) < den := by exact_mod_cast low
    constructor <;> nlinarith
  · split
    · rename_i high
      have high : (den : ℚ) < 2 * (num % den : Nat) := by exact_mod_cast high
      have less : ((num % den : Nat) : ℚ) < den := by exact_mod_cast Nat.mod_lt _ pos
      push_cast
      constructor <;> nlinarith
    · have half : 2 * ((num % den : Nat) : ℚ) = den := by
        have : 2 * (num % den) = den := by omega
        exact_mod_cast this
      have : ((num % den : Nat) : ℚ) / den = 1 / 2 := by
        rw [div_eq_iff den_pos.ne']
        linarith
      split
      · rw [this]
        norm_num
      · rw [this]
        push_cast
        norm_num

end

theorem cast_powerOfTwo (n : Nat) : ((powerOfTwo n : Nat) : ℚ) = 2 ^ n := by
  show ((2 ^ n : Nat) : ℚ) = 2 ^ n
  push_cast
  rfl

theorem powerOfTwo_pos (n : Nat) : 0 < powerOfTwo n := Nat.two_pow_pos n

-- A power of two with a whole exponent as a quotient of two powers, one of them 1.
theorem powerOfTwo_div (e : Int) :
    ((powerOfTwo e.toNat : Nat) : ℚ) / (powerOfTwo (-e).toNat : Nat) = (2 : ℚ) ^ e := by
  rw [cast_powerOfTwo, cast_powerOfTwo]
  rcases Int.le_total 0 e with up | down
  · obtain ⟨n, rfl⟩ := Int.eq_ofNat_of_zero_le up
    simp
  · obtain ⟨n, same⟩ := Int.eq_ofNat_of_zero_le (Int.neg_nonneg_of_nonpos down)
    have : e = -(n : Int) := by omega
    subst this
    simp

namespace Binary64

-- What a finite number stands for.
def value : Binary64 → ℚ
  | finite negative m e => (if negative then -m else m : ℚ) * 2 ^ e
  | _ => 0

theorem units_mul (negative : Bool) (m : Nat) {e unit : Int} (low : unit ≤ e) :
    (units negative m e unit : ℚ) * 2 ^ unit = (finite negative m e).value := by
  have scaled : ((powerOfTwo (e - unit).toNat : Nat) : ℚ) * 2 ^ unit = 2 ^ e := by
    rw [cast_powerOfTwo, ← zpow_natCast, ← zpow_add₀ (by norm_num)]
    congr 1
    omega
  cases negative with
  | false =>
    simp only [units, value, Bool.false_eq_true, if_false]
    push_cast
    rw [mul_assoc, scaled]
  | true =>
    simp only [units, value, if_true]
    push_cast
    rw [← scaled]
    ring

theorem lt_iff {x y : Binary64} (first : x.isFinite) (second : y.isFinite) :
    x.lt y ↔ x.value < y.value := by
  cases x with
  | nan => cases first
  | infinite => cases first
  | finite s m e =>
    cases y with
    | nan => cases second
    | infinite => cases second
    | finite t n f =>
      have unit_pos : (0 : ℚ) < 2 ^ min e f := by positivity
      rw [← units_mul s m (Int.min_le_left e f), ← units_mul t n (Int.min_le_right e f),
        mul_lt_mul_iff_left₀ unit_pos, Int.cast_lt]
      simp only [lt, compare?, Option.some.injEq, decide_eq_true_eq, compare_lt_iff_lt]

theorem isFinite_zero : zero.isFinite := rfl

theorem isFinite_one : one.isFinite := by decide

theorem value_zero : zero.value = 0 := by simp [zero, value]

theorem compare?_eq_iff {x y : Binary64} (first : x.isFinite) (second : y.isFinite) :
    compare? x y = some .eq ↔ x.value = y.value := by
  cases x with
  | nan => cases first
  | infinite => cases first
  | finite s m e =>
    cases y with
    | nan => cases second
    | infinite => cases second
    | finite t n f =>
      have unit_pos : (0 : ℚ) < 2 ^ min e f := by positivity
      rw [← units_mul s m (Int.min_le_left e f), ← units_mul t n (Int.min_le_right e f),
        mul_left_inj' unit_pos.ne', Int.cast_inj]
      simp only [compare?, Option.some.injEq, compare_eq_iff_eq]

theorem le_iff {x y : Binary64} (first : x.isFinite) (second : y.isFinite) :
    x.le y ↔ x.value ≤ y.value := by
  rw [le, Bool.or_eq_true, lt_iff first second, decide_eq_true_iff, compare?_eq_iff first second,
    le_iff_lt_or_eq]

section

variable {num den : Nat}

theorem onGrid_div (num den : Nat) (e : Int) :
    ((onGrid num den e).1 : ℚ) / (onGrid num den e).2 = num / den / 2 ^ e := by
  have power := powerOfTwo_div e
  simp only [onGrid]
  push_cast
  rw [← power]
  field_simp

theorem onGrid_snd_pos (pos : 0 < den) (e : Int) : 0 < (onGrid num den e).2 :=
  Nat.mul_pos pos (powerOfTwo_pos _)

-- The place of the first binary digit of a quotient.
theorem log_ratio_iff (num_pos : 0 < num) (den_pos : 0 < den) (k : Int) :
    Int.log 2 (num / den : ℚ) = k ↔ (2 : ℚ) ^ k ≤ num / den ∧ (num / den : ℚ) < 2 ^ (k + 1) := by
  have pos : (0 : ℚ) < num / den := by positivity
  have two : 1 < 2 := by decide
  constructor
  · rintro rfl
    exact ⟨Int.zpow_log_le_self two pos, Int.lt_zpow_succ_log_self two _⟩
  · rintro ⟨le, lt⟩
    have low := (Int.zpow_le_iff_le_log two pos).mp le
    have high := (Int.lt_zpow_iff_log_lt two pos).mp lt
    omega

theorem cast_log2_le (pos : 0 < num) : (2 : ℚ) ^ (num.log2 : Int) ≤ num := by
  rw [zpow_natCast]
  exact_mod_cast Nat.log2_self_le pos.ne'

theorem lt_cast_log2 (num : Nat) : (num : ℚ) < 2 ^ ((num.log2 : Int) + 1) := by
  have below : num < 2 ^ (num.log2 + 1) := Nat.lt_log2_self
  have cast : ((num.log2 : Int) + 1) = ((num.log2 + 1 : Nat) : Int) := by push_cast; rfl
  rw [cast, zpow_natCast]
  exact_mod_cast below

-- The exponents that the first guess leaves open.
theorem ratio_bounds (num_pos : 0 < num) (den_pos : 0 < den) :
    (2 : ℚ) ^ ((num.log2 : Int) - den.log2 - 1) ≤ num / den ∧
      (num / den : ℚ) < 2 ^ ((num.log2 : Int) - den.log2 + 1) := by
  have two : (2 : ℚ) ≠ 0 := by norm_num
  have den_pos' : (0 : ℚ) < den := by exact_mod_cast den_pos
  constructor
  · rw [le_div_iff₀ den_pos']
    calc (2 : ℚ) ^ ((num.log2 : Int) - den.log2 - 1) * den
        ≤ 2 ^ ((num.log2 : Int) - den.log2 - 1) * 2 ^ ((den.log2 : Int) + 1) := by
          have := lt_cast_log2 den
          gcongr
      _ = 2 ^ (num.log2 : Int) := by
          rw [← zpow_add₀ two]
          congr 1
          omega
      _ ≤ num := cast_log2_le num_pos
  · rw [div_lt_iff₀ den_pos']
    calc (num : ℚ) < 2 ^ ((num.log2 : Int) + 1) := lt_cast_log2 num
      _ = 2 ^ ((num.log2 : Int) - den.log2 + 1) * 2 ^ (den.log2 : Int) := by
          rw [← zpow_add₀ two]
          congr 1
          omega
      _ ≤ 2 ^ ((num.log2 : Int) - den.log2 + 1) * den := by
          have := cast_log2_le den_pos
          gcongr

theorem gridExponent_eq (num_pos : 0 < num) (den_pos : 0 < den) :
    gridExponent num den = max leastExponent (Int.log 2 (num / den : ℚ) - 52) := by
  obtain ⟨low, high⟩ := ratio_bounds num_pos den_pos
  unfold gridExponent
  dsimp only
  congr 1
  generalize guess : (num.log2 : Int) - den.log2 - 53 = e
  have two : (2 : ℚ) ≠ 0 := by norm_num
  have whole : (onGrid num den e).1 / (onGrid num den e).2 < 2 * leastNormal ↔
      (num / den : ℚ) < 2 ^ (e + 53) := by
    rw [Nat.div_lt_iff_lt_mul (onGrid_snd_pos den_pos e)]
    have snd_pos : (0 : ℚ) < (onGrid num den e).2 := by exact_mod_cast onGrid_snd_pos den_pos e
    have power_pos : (0 : ℚ) < 2 ^ e := by positivity
    have split : (2 : ℚ) ^ (e + 53) = 2 * leastNormal * 2 ^ e := by
      rw [zpow_add₀ two, mul_comm]
      congr 1
      norm_num [leastNormal, powerOfTwo]
    rw [split, ← div_lt_iff₀ power_pos, ← onGrid_div, div_lt_iff₀ snd_pos]
    exact_mod_cast Iff.rfl
  split
  · rename_i small
    have small := whole.mp small
    have found := (log_ratio_iff num_pos den_pos (e + 52)).mpr
      ⟨by convert low using 2; omega, by convert small using 2; omega⟩
    omega
  · rename_i large
    have large := not_lt.mp (mt whole.mpr large)
    have found := (log_ratio_iff num_pos den_pos (e + 53)).mpr
      ⟨large, by convert high using 2; omega⟩
    omega

end

section

variable {num den num' den' : Nat}

theorem ofRatio_congr (den_pos : 0 < den) (den_pos' : 0 < den')
    (same : num * den' = num' * den) (negative : Bool) :
    ofRatio negative num den = ofRatio negative num' den' := by
  by_cases zero : num = 0
  · have zero' : num' = 0 := by
      rw [zero, Nat.zero_mul] at same
      exact (Nat.mul_eq_zero.mp same.symm).resolve_right den_pos.ne'
    rw [zero, zero']
    rfl
  · have zero' : num' ≠ 0 := by
      rintro rfl
      rw [Nat.zero_mul] at same
      exact (Nat.mul_eq_zero.mp same).elim zero den_pos'.ne'
    have ratio : (num / den : ℚ) = num' / den' := by
      rw [div_eq_div_iff (by positivity) (by positivity)]
      exact_mod_cast same
    have grid : gridExponent num den = gridExponent num' den' := by
      rw [gridExponent_eq (Nat.pos_of_ne_zero zero) den_pos,
        gridExponent_eq (Nat.pos_of_ne_zero zero') den_pos', ratio]
    have rounded (e : Int) : roundHalfEven (onGrid num den e).1 (onGrid num den e).2
        = roundHalfEven (onGrid num' den' e).1 (onGrid num' den' e).2 := by
      refine roundHalfEven_congr (onGrid_snd_pos den_pos e) (onGrid_snd_pos den_pos' e) ?_
      simp only [onGrid]
      rw [Nat.mul_mul_mul_comm, same, Nat.mul_mul_mul_comm]
    simp only [ofRatio, zero, zero', grid, rounded]

-- A significand that rounding carries over the top stands for the same number one exponent up.
-- At the greatest exponent there is no room for that.
theorem value_ofRatio (den : Nat) (num_pos : 0 < num) :
    let grid := onGrid num den (gridExponent num den)
    gridExponent num den < greatestExponent ∨ gridExponent num den = greatestExponent ∧
      roundHalfEven grid.1 grid.2 < 2 * leastNormal →
    ∃ m e, ofRatio false num den = finite false m e ∧
      (m : ℚ) * 2 ^ e = roundHalfEven grid.1 grid.2 * 2 ^ gridExponent num den := by
  intro grid room
  by_cases carried : roundHalfEven grid.1 grid.2 = 2 * leastNormal
  · have fits : ¬ greatestExponent < gridExponent num den + 1 := by omega
    refine ⟨leastNormal, gridExponent num den + 1, ?_, ?_⟩
    · simp only [ofRatio, num_pos.ne', if_false]
      rw [if_pos carried]
      exact if_neg fits
    · rw [carried, zpow_add_one₀ (by norm_num)]
      push_cast
      ring
  · have fits : ¬ greatestExponent < gridExponent num den := by omega
    refine ⟨roundHalfEven grid.1 grid.2, gridExponent num den, ?_, rfl⟩
    simp only [ofRatio, num_pos.ne', if_false]
    rw [if_neg carried]
    exact if_neg fits

-- Quotients of numbers with at most 53 digits are far from both ends of the exponents.
theorem gridExponent_of_lt (num_pos : 0 < num) (den_pos : 0 < den) (num_lt : num < 2 ^ 53)
    (den_lt : den < 2 ^ 53) :
    gridExponent num den = Int.log 2 (num / den : ℚ) - 52 ∧ gridExponent num den ≤ 0 := by
  obtain ⟨low, high⟩ := ratio_bounds num_pos den_pos
  have pos : (0 : ℚ) < num / den := by positivity
  have two : 1 < 2 := by decide
  have lower := (Int.zpow_le_iff_le_log two pos).mp low
  have upper := (Int.lt_zpow_iff_log_lt two pos).mp high
  have num_digits : num.log2 < 53 := (Nat.log2_lt num_pos.ne').mpr num_lt
  have den_digits : den.log2 < 53 := (Nat.log2_lt den_pos.ne').mpr den_lt
  rw [gridExponent_eq num_pos den_pos]
  unfold leastExponent
  omega

theorem abs_value_ofRatio_sub_le (den_pos : 0 < den) (num_lt : num < 2 ^ 53)
    (den_lt : den < 2 ^ 53) :
    ∃ m e, ofRatio false num den = finite false m e ∧
      |(m : ℚ) * 2 ^ e - num / den| ≤ num / den / 2 ^ 53 := by
  rcases Nat.eq_zero_or_pos num with rfl | num_pos
  · exact ⟨0, leastExponent, rfl, by simp⟩
  · obtain ⟨grid, le⟩ := gridExponent_of_lt num_pos den_pos num_lt den_lt
    obtain ⟨m, e, made, rounded⟩ := value_ofRatio den num_pos
      (.inl (Int.lt_of_le_of_lt le (by decide)))
    refine ⟨m, e, made, ?_⟩
    have pos : (0 : ℚ) < num / den := by positivity
    have first : (2 : ℚ) ^ (Int.log 2 (num / den : ℚ)) ≤ num / den :=
      Int.zpow_log_le_self (by decide) pos
    rw [rounded]
    generalize gridExponent num den = k at grid
    have step : (2 : ℚ) ^ k = 2 ^ (Int.log 2 (num / den : ℚ)) / 2 ^ 52 := by
      rw [grid, zpow_sub₀ (by norm_num)]
      norm_num
    have grid_pos : 0 < (onGrid num den k).2 := onGrid_snd_pos den_pos k
    have near := abs_roundHalfEven_sub_le (onGrid num den k).1 grid_pos
    rw [onGrid_div] at near
    have power_pos : (0 : ℚ) < 2 ^ k := by positivity
    calc |(roundHalfEven (onGrid num den k).1 (onGrid num den k).2 : ℚ) * 2 ^ k - num / den|
        = |(roundHalfEven (onGrid num den k).1 (onGrid num den k).2 : ℚ) - num / den / 2 ^ k|
            * 2 ^ k := by
          rw [← abs_of_pos power_pos, ← abs_mul, abs_of_pos power_pos, sub_mul,
            div_mul_cancel₀ _ power_pos.ne']
      _ ≤ 1 / 2 * 2 ^ k := by gcongr
      _ ≤ num / den / 2 ^ 53 := by
          rw [step]
          linarith

theorem ratio_div (m : Nat) (e : Int) :
    ((ratio m e).1 : ℚ) / (ratio m e).2 = m * 2 ^ e := by
  simp only [ratio]
  push_cast
  rw [mul_div_assoc, powerOfTwo_div]

theorem ratio_snd_pos (m : Nat) (e : Int) : 0 < (ratio m e).2 := powerOfTwo_pos _

end

section

variable {a b c d : Nat}

theorem ofNat_exact (lt : a < 2 ^ 53) :
    ∃ m e, ofNat a = finite false m e ∧ (m : ℚ) * 2 ^ e = a := by
  rcases Nat.eq_zero_or_pos a with rfl | pos
  · exact ⟨0, leastExponent, rfl, by simp⟩
  · obtain ⟨_, le⟩ := gridExponent_of_lt pos Nat.one_pos lt (by decide)
    obtain ⟨m, e, made, rounded⟩ := value_ofRatio 1 pos
      (.inl (Int.lt_of_le_of_lt le (by decide)))
    refine ⟨m, e, made, rounded.trans ?_⟩
    have whole : (onGrid a 1 (gridExponent a 1)).2 = 1 := by
      simp only [onGrid, Int.toNat_eq_zero.mpr le]
      rfl
    have scaled := onGrid_div a 1 (gridExponent a 1)
    rw [whole, Nat.cast_one, div_one, div_one] at scaled
    rw [whole, roundHalfEven_one, scaled, div_mul_cancel₀ _ (by positivity)]

-- Both numbers are exact, so only the division rounds.
theorem div_ofNat (a_lt : a < 2 ^ 53) (b_pos : 0 < b) (b_lt : b < 2 ^ 53) :
    (ofNat a).div (ofNat b) = ofRatio false a b := by
  obtain ⟨m, e, first, a_eq⟩ := ofNat_exact a_lt
  obtain ⟨n, f, second, b_eq⟩ := ofNat_exact b_lt
  have n_ne : n ≠ 0 := by
    rintro rfl
    simp only [Nat.cast_zero, zero_mul] at b_eq
    exact b_pos.ne (by exact_mod_cast b_eq)
  rw [first, second]
  simp only [div, n_ne, if_false, Bool.xor_false]
  rw [← ratio_div, div_eq_iff (by have := ratio_snd_pos m e; positivity)] at a_eq
  rw [← ratio_div, div_eq_iff (by have := ratio_snd_pos n f; positivity)] at b_eq
  have c_pos : 0 < (ratio n f).1 := by
    have : (0 : ℚ) < (ratio n f).1 := by
      rw [b_eq]
      have := ratio_snd_pos n f
      positivity
    exact_mod_cast this
  refine ofRatio_congr (Nat.mul_pos (ratio_snd_pos m e) c_pos) b_pos ?_ false
  have cross : ((ratio m e).1 * (ratio n f).2 * b : ℚ) = a * ((ratio m e).2 * (ratio n f).1) := by
    rw [a_eq, b_eq]
    ring
  exact_mod_cast cross

theorem isFinite_div (a_lt : a < 2 ^ 53) (b_pos : 0 < b) (b_lt : b < 2 ^ 53) :
    ((ofNat a).div (ofNat b)).isFinite := by
  obtain ⟨m, e, made, _⟩ := abs_value_ofRatio_sub_le b_pos a_lt b_lt
  rw [div_ofNat a_lt b_pos b_lt, made]
  rfl

theorem abs_value_div_sub_le (a_lt : a < 2 ^ 53) (b_pos : 0 < b) (b_lt : b < 2 ^ 53) :
    |((ofNat a).div (ofNat b)).value - a / b| ≤ a / b / 2 ^ 53 := by
  obtain ⟨m, e, made, near⟩ := abs_value_ofRatio_sub_le b_pos a_lt b_lt
  rw [div_ofNat a_lt b_pos b_lt, made]
  exact near

section

variable (a_lt : a < 2 ^ 53) (b_pos : 0 < b) (b_lt : b < 2 ^ 53)
  (c_lt : c < 2 ^ 53) (d_pos : 0 < d) (d_lt : d < 2 ^ 53)

include a_lt b_pos b_lt c_lt d_pos d_lt

-- Two ratios keep their order if they are apart by more than one part in 2^52.
theorem value_div_lt (apart : (c / d / 2 ^ 52 : ℚ) < c / d - a / b) :
    ((ofNat a).div (ofNat b)).value < ((ofNat c).div (ofNat d)).value := by
  have low := (abs_le.mp (abs_value_div_sub_le a_lt b_pos b_lt)).2
  have high := (abs_le.mp (abs_value_div_sub_le c_lt d_pos d_lt)).1
  have nonneg : (0 : ℚ) ≤ c / d := by positivity
  norm_num at low high apart ⊢
  linarith

theorem div_congr (same : a * d = c * b) : (ofNat a).div (ofNat b) = (ofNat c).div (ofNat d) := by
  rw [div_ofNat a_lt b_pos b_lt, div_ofNat c_lt d_pos d_lt]
  exact ofRatio_congr b_pos d_pos same false

end

-- A proper part of a whole of at most 32 bits is told apart from the whole.
theorem value_div_lt_self {a b d : Nat} (part : a < b) (b_lt : b < 2 ^ 32) (d_pos : 0 < d)
    (d_lt : d < 2 ^ 32) :
    ((ofNat a).div (ofNat b)).value < ((ofNat d).div (ofNat d)).value := by
  have b_pos' : (0 : ℚ) < b := by exact_mod_cast Nat.zero_lt_of_lt part
  have d_pos' : (0 : ℚ) < d := by exact_mod_cast d_pos
  have part' : (a + 1 : ℚ) ≤ b := by exact_mod_cast part
  have small : (b : ℚ) < 2 ^ 52 := by exact_mod_cast (by omega : b < 2 ^ 52)
  refine value_div_lt (by omega) (by omega) (by omega) (by omega) d_pos (by omega) ?_
  rw [div_self d_pos'.ne', lt_sub_comm, div_lt_iff₀ b_pos']
  linarith

-- With at most 26 digits, different ratios are never as close as that.
theorem value_div_lt_of_lt (b_pos : 0 < b) (d_pos : 0 < d) (b_lt : b < 2 ^ 26) (c_lt : c < 2 ^ 26)
    (a_lt : a < 2 ^ 53) (d_lt : d < 2 ^ 53) (less : (a / b : ℚ) < c / d) :
    ((ofNat a).div (ofNat b)).value < ((ofNat c).div (ofNat d)).value := by
  have b_pos' : (0 : ℚ) < b := by exact_mod_cast b_pos
  have d_pos' : (0 : ℚ) < d := by exact_mod_cast d_pos
  have cross : a * d + 1 ≤ c * b := by
    rw [div_lt_div_iff₀ b_pos' d_pos'] at less
    exact_mod_cast less
  have few : c * b < 2 ^ 52 := by
    calc c * b < 2 ^ 26 * 2 ^ 26 := Nat.mul_lt_mul'' c_lt b_lt
      _ = 2 ^ 52 := by norm_num
  refine value_div_lt a_lt b_pos (by omega) (by omega) d_pos d_lt ?_
  have cross : (a * d + 1 : ℚ) ≤ c * b := by exact_mod_cast cross
  have few : (c * b : ℚ) < 2 ^ 52 := by exact_mod_cast few
  rw [div_sub_div _ _ d_pos'.ne' b_pos'.ne', div_div,
    div_lt_div_iff₀ (by positivity) (by positivity)]
  nlinarith [mul_pos d_pos' d_pos']

theorem value_div_lt_iff (a_lt : a < 2 ^ 26) (b_pos : 0 < b) (b_lt : b < 2 ^ 26) (c_lt : c < 2 ^ 26)
    (d_pos : 0 < d) (d_lt : d < 2 ^ 26) :
    ((ofNat a).div (ofNat b)).value < ((ofNat c).div (ofNat d)).value ↔ (a / b : ℚ) < c / d := by
  constructor
  · intro less
    by_contra not_less
    rcases (not_lt.mp not_less).lt_or_eq with more | same
    · have := value_div_lt_of_lt d_pos b_pos d_lt a_lt (by omega) (by omega) more
      exact absurd this less.asymm
    · have same : c * b = a * d := by
        rw [div_eq_div_iff (by positivity) (by positivity)] at same
        exact_mod_cast same
      have := div_congr (by omega) b_pos (by omega) (by omega) d_pos (by omega) same.symm
      rw [this] at less
      exact absurd less (lt_irrefl _)
  · exact value_div_lt_of_lt b_pos d_pos b_lt c_lt (by omega) (by omega)

end

theorem truncate_le (bound : Nat) (x : Binary64) : x.truncate bound ≤ bound := by
  cases x with
  | nan => exact Nat.zero_le _
  | infinite negative => cases negative <;> simp [truncate]
  | finite negative m e => cases negative <;> simp [truncate]

theorem roundHalfUp_le (bound : Nat) (x : Binary64) : x.roundHalfUp bound ≤ bound := by
  cases x with
  | nan => exact Nat.zero_le _
  | infinite negative => cases negative <;> simp [roundHalfUp]
  | finite negative m e => cases negative <;> simp [roundHalfUp]

end Binary64

end Balancing
