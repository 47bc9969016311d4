import Balancing.Proofs.Numbers.Rounding

namespace Balancing

theorem roundHalfEven_le {num den k : Nat} (pos : 0 < den) (below : (num / den : ℚ) < k + 1 / 2) :
    roundHalfEven num den ≤ k := by
  have near := (abs_le.mp (abs_roundHalfEven_sub_le num pos)).2
  have less : ((roundHalfEven num den : Nat) : ℚ) < (k + 1 : Nat) := by
    push_cast
    linarith
  exact Nat.lt_succ_iff.mp (by exact_mod_cast less)

theorem le_roundHalfEven {num den k : Nat} (pos : 0 < den) (above : (k : ℚ) - 1 / 2 < num / den) :
    k ≤ roundHalfEven num den := by
  have near := (abs_le.mp (abs_roundHalfEven_sub_le num pos)).1
  have more : (k : ℚ) < (roundHalfEven num den + 1 : Nat) := by
    push_cast
    linarith
  exact Nat.lt_succ_iff.mp (by exact_mod_cast more)

namespace Binary64

-- A number with at most 53 binary digits, none of them below the least place.
def Representable (v : ℚ) : Prop :=
  ∃ (m : Nat) (e : Int), m ≤ 2 ^ 53 ∧ leastExponent ≤ e ∧ v = m * 2 ^ e

-- Below it rounding stays finite.
def limit : ℚ := 2 ^ (greatestExponent + 53)

theorem le_limit {k : Int} (low : k ≤ 1024) : (2 : ℚ) ^ k ≤ limit :=
  zpow_le_zpow_right₀ (by norm_num) low

section

variable {num den : Nat}

theorem gridExponent_le (num_pos : 0 < num) (den_pos : 0 < den) {k : Int} (low : -1021 ≤ k)
    (below : (num / den : ℚ) < 2 ^ k) : gridExponent num den ≤ k - 53 := by
  have two : 1 < 2 := by decide
  have pos : (0 : ℚ) < num / den := by positivity
  have log := (Int.lt_zpow_iff_log_lt two pos).mp below
  rw [gridExponent_eq num_pos den_pos]
  unfold leastExponent
  omega

-- The grid of a quotient has every representable number from the quotient on.
theorem grid_of_representable (num_pos : 0 < num) (den_pos : 0 < den) {v : ℚ}
    (grid : Representable v) (le : (num / den : ℚ) ≤ v) :
    ∃ k : Nat, v = k * 2 ^ gridExponent num den := by
  obtain ⟨m, e, digits, least, rfl⟩ := grid
  have exponent := gridExponent_eq num_pos den_pos
  generalize gridExponent num den = g at exponent
  have two : (2 : ℚ) ≠ 0 := by norm_num
  rcases Int.lt_or_le e g with coarse | fine
  · -- the number is too small for a coarser grid, unless it is the first one of it
    have log : Int.log 2 (num / den : ℚ) = g + 52 := by omega
    obtain ⟨first, _⟩ := (log_ratio_iff num_pos den_pos (g + 52)).mp log
    have top : (m : ℚ) * 2 ^ e ≤ 2 ^ (g + 52) := by
      calc (m : ℚ) * 2 ^ e ≤ 2 ^ 53 * 2 ^ (g - 1) := by
            have digits : (m : ℚ) ≤ 2 ^ 53 := by exact_mod_cast digits
            have fine : (2 : ℚ) ^ e ≤ 2 ^ (g - 1) := zpow_le_zpow_right₀ (by norm_num) (by omega)
            gcongr
        _ = 2 ^ (g + 52) := by
            rw [← zpow_natCast, ← zpow_add₀ two]
            congr 1
            push_cast
            omega
    refine ⟨2 ^ 52, ?_⟩
    have same : (m : ℚ) * 2 ^ e = 2 ^ (g + 52) := le_antisymm top (first.trans le)
    rw [same, zpow_add₀ two, mul_comm]
    push_cast
    norm_num
  · refine ⟨m * 2 ^ (e - g).toNat, ?_⟩
    have split : (2 : ℚ) ^ e = 2 ^ (e - g).toNat * 2 ^ g := by
      rw [← zpow_natCast, ← zpow_add₀ two]
      congr 1
      omega
    push_cast
    rw [split, mul_assoc]

theorem value_ofRatio_le (den_pos : 0 < den) {v : ℚ} (grid : Representable v)
    (v_lt : v < limit) (le : (num / den : ℚ) ≤ v) :
    ∃ m e, ofRatio false num den = finite false m e ∧ (m : ℚ) * 2 ^ e ≤ v := by
  rcases Nat.eq_zero_or_pos num with rfl | num_pos
  · refine ⟨0, leastExponent, rfl, ?_⟩
    rw [Nat.cast_zero, zero_div] at le
    rw [Nat.cast_zero, zero_mul]
    exact le
  · have exponent := gridExponent_le num_pos den_pos (by decide) (le.trans_lt v_lt)
    obtain ⟨k, rfl⟩ := grid_of_representable num_pos den_pos grid le
    have power_pos : (0 : ℚ) < 2 ^ gridExponent num den := by positivity
    have rounds : roundHalfEven (onGrid num den (gridExponent num den)).1
        (onGrid num den (gridExponent num den)).2 ≤ k := by
      refine roundHalfEven_le (onGrid_snd_pos den_pos _) ?_
      rw [onGrid_div]
      have scaled : (num / den : ℚ) / 2 ^ gridExponent num den ≤ k := (div_le_iff₀ power_pos).mpr le
      linarith
    have room : gridExponent num den < greatestExponent ∨ gridExponent num den = greatestExponent ∧
        roundHalfEven (onGrid num den (gridExponent num den)).1
          (onGrid num den (gridExponent num den)).2 < 2 * leastNormal := by
      rcases (by omega : gridExponent num den < greatestExponent ∨
        gridExponent num den = greatestExponent) with lower | top
      · exact .inl lower
      · -- the bound leaves no more than 53 digits here
        refine .inr ⟨top, rounds.trans_lt ?_⟩
        rw [top, limit, add_comm, zpow_add₀ (by norm_num),
          mul_lt_mul_iff_left₀ (by positivity)] at v_lt
        have digits : (2 : ℚ) ^ (53 : Int) = (2 * leastNormal : Nat) := by
          norm_num [leastNormal, powerOfTwo]
        rw [digits] at v_lt
        exact_mod_cast v_lt
    obtain ⟨m, e, made, rounded⟩ := value_ofRatio den num_pos room
    refine ⟨m, e, made, ?_⟩
    rw [rounded, mul_le_mul_iff_left₀ power_pos, Nat.cast_le]
    exact rounds

-- On its own grid a quotient has no more than 53 digits.
theorem significand_le (num_pos : 0 < num) (den_pos : 0 < den) :
    let grid := onGrid num den (gridExponent num den)
    roundHalfEven grid.1 grid.2 ≤ 2 ^ 53 := by
  intro grid
  have two : 1 < 2 := by decide
  have exponent := gridExponent_eq num_pos den_pos
  have power_pos : (0 : ℚ) < 2 ^ gridExponent num den := by positivity
  have upper : (num / den : ℚ) < 2 ^ (53 : Int) * 2 ^ gridExponent num den := by
    rw [← zpow_add₀ (by norm_num)]
    refine (Int.lt_zpow_succ_log_self two _).trans_le ?_
    exact zpow_le_zpow_right₀ (by norm_num) (by omega)
  refine roundHalfEven_le (onGrid_snd_pos den_pos _) ?_
  have below := (div_lt_iff₀ power_pos).mpr upper
  rw [onGrid_div]
  push_cast at below ⊢
  linarith

-- What the 64 bits of a number can hold.
def InFormat : Binary64 → Prop
  | finite _ m e => m < 2 ^ 53 ∧ leastExponent ≤ e ∧ e ≤ greatestExponent
  | _ => True

theorem InFormat.representable {s : Bool} {m : Nat} {e : Int} (format : (finite s m e).InFormat) :
    Representable (m * 2 ^ e) := ⟨m, e, format.1.le, format.2.1, rfl⟩

theorem InFormat.lt_limit {s : Bool} {m : Nat} {e : Int} (format : (finite s m e).InFormat) :
    (m : ℚ) * 2 ^ e < limit := by
  have digits : (m : ℚ) < 2 ^ (53 : Int) := by exact_mod_cast format.1
  have power : (2 : ℚ) ^ e ≤ 2 ^ greatestExponent := zpow_le_zpow_right₀ (by norm_num) format.2.2
  rw [limit, add_comm, zpow_add₀ (by norm_num)]
  exact mul_lt_mul digits power (by positivity) (by positivity)

-- Beyond the format a quotient is infinite; within it, what comes out stands for the rounded one.
theorem ofRatio_cases (negative : Bool) (num_pos : 0 < num) (den_pos : 0 < den) :
    let grid := onGrid num den (gridExponent num den)
    ofRatio negative num den = infinite negative ∨
    ∃ m e, ofRatio negative num den = finite negative m e ∧ (finite negative m e).InFormat ∧
      (m : ℚ) * 2 ^ e = roundHalfEven grid.1 grid.2 * 2 ^ gridExponent num den := by
  intro grid
  have digits := significand_le num_pos den_pos
  have least : leastExponent ≤ gridExponent num den := by
    rw [gridExponent_eq num_pos den_pos]
    exact le_max_left ..
  have top : 2 * leastNormal = 2 ^ 53 := by norm_num [leastNormal, powerOfTwo]
  simp only [ofRatio, num_pos.ne', if_false]
  by_cases carried : roundHalfEven grid.1 grid.2 = 2 * leastNormal
  · rw [if_pos carried]
    dsimp only
    split
    · exact .inl rfl
    · rename_i fits
      refine .inr ⟨_, _, rfl, ⟨by norm_num [leastNormal, powerOfTwo], by omega, by omega⟩, ?_⟩
      rw [carried, zpow_add_one₀ (by norm_num)]
      push_cast
      ring
  · rw [if_neg carried]
    dsimp only
    split
    · exact .inl rfl
    · rename_i fits
      have fewer : roundHalfEven grid.1 grid.2 < 2 ^ 53 :=
        Nat.lt_of_le_of_ne digits (top ▸ carried)
      exact .inr ⟨_, _, rfl, ⟨fewer, least, by omega⟩, rfl⟩

theorem inFormat_ofRatio (negative : Bool) (num : Nat) (den_pos : 0 < den) :
    (ofRatio negative num den).InFormat := by
  rcases Nat.eq_zero_or_pos num with rfl | num_pos
  · exact ⟨by norm_num, le_refl _, by decide⟩
  · rcases ofRatio_cases negative num_pos den_pos with made | ⟨m, e, made, format, _⟩
    · rw [made]
      trivial
    · rw [made]
      exact format

-- A quotient does not round below a power of two that the format has.
theorem le_value_ofRatio (den_pos : 0 < den) {j : Int} (least : leastExponent ≤ j)
    (le : (2 : ℚ) ^ j ≤ num / den) :
    ofRatio false num den = infinite false ∨
    ∃ m e, ofRatio false num den = finite false m e ∧ (2 : ℚ) ^ j ≤ m * 2 ^ e := by
  have num_pos : 0 < num := by
    refine Nat.pos_of_ne_zero fun zero => ?_
    rw [zero, Nat.cast_zero, zero_div] at le
    exact absurd le (not_le.mpr (by positivity))
  rcases ofRatio_cases false num_pos den_pos with made | ⟨m, e, made, _, rounded⟩
  · exact .inl made
  · refine .inr ⟨m, e, made, ?_⟩
    have exponent := gridExponent_eq num_pos den_pos
    have snd_pos : 0 < (onGrid num den (gridExponent num den)).2 := onGrid_snd_pos den_pos _
    rw [rounded]
    generalize gridExponent num den = g at exponent snd_pos
    have power_pos : (0 : ℚ) < 2 ^ g := by positivity
    -- the power of two itself, or the first step of a coarser grid
    have shift : (2 : ℚ) ^ max j g = (2 ^ (j - g).toNat : Nat) * 2 ^ g := by
      push_cast
      rw [← zpow_natCast, ← zpow_add₀ (by norm_num)]
      congr 1
      omega
    have first : (2 : ℚ) ^ max j g ≤ num / den := by
      rcases Int.le_total g j with fine | coarse
      · rwa [max_eq_left fine]
      · have pos : (0 : ℚ) < num / den := by positivity
        have two : 1 < 2 := by decide
        have log := (Int.zpow_le_iff_le_log two pos).mp le
        rw [max_eq_right coarse]
        exact (Int.zpow_le_iff_le_log two pos).mpr (by omega)
    have counted : 2 ^ (j - g).toNat ≤ roundHalfEven (onGrid num den g).1 (onGrid num den g).2 := by
      refine le_roundHalfEven snd_pos ?_
      rw [shift, ← le_div_iff₀ power_pos] at first
      rw [onGrid_div]
      linarith
    calc (2 : ℚ) ^ j ≤ 2 ^ max j g := zpow_le_zpow_right₀ (by norm_num) (le_max_left ..)
      _ = (2 ^ (j - g).toNat : Nat) * 2 ^ g := shift
      _ ≤ _ := by
          rw [mul_le_mul_iff_left₀ power_pos]
          exact_mod_cast counted

-- What comes out of rounding is representable and near.
theorem representable_ofRatio (den_pos : 0 < den) {k : Int} (low : -1021 ≤ k) (high : k ≤ 1023)
    (below : (num / den : ℚ) < 2 ^ k) :
    ∃ m e, ofRatio false num den = finite false m e ∧ Representable (m * 2 ^ e) ∧
      (m : ℚ) * 2 ^ e ≤ num / den + 2 ^ (k - 54) := by
  rcases Nat.eq_zero_or_pos num with rfl | num_pos
  · refine ⟨0, leastExponent, rfl, ⟨0, leastExponent, by norm_num, le_refl _, rfl⟩, ?_⟩
    rw [Nat.cast_zero, zero_div, zero_mul, zero_add]
    positivity
  · have exponent := gridExponent_le num_pos den_pos low below
    have least : leastExponent ≤ gridExponent num den := by
      rw [gridExponent_eq num_pos den_pos]
      exact le_max_left ..
    have digits := significand_le num_pos den_pos
    obtain ⟨m, e, made, rounded⟩ := value_ofRatio den num_pos
      (.inl (Int.lt_of_le_of_lt exponent (by unfold greatestExponent; omega)))
    refine ⟨m, e, made, ⟨_, _, digits, least, rounded⟩, ?_⟩
    generalize gridExponent num den = g at exponent rounded
    have grid_pos : 0 < (onGrid num den g).2 := onGrid_snd_pos den_pos g
    have near := (abs_le.mp (abs_roundHalfEven_sub_le (onGrid num den g).1 grid_pos)).2
    have power_pos : (0 : ℚ) < 2 ^ g := by positivity
    rw [onGrid_div] at near
    calc (m : ℚ) * 2 ^ e
        = roundHalfEven (onGrid num den g).1 (onGrid num den g).2 * 2 ^ g := rounded
      _ ≤ (num / den / 2 ^ g + 1 / 2) * 2 ^ g := by
          gcongr
          linarith
      _ = num / den + 2 ^ (g - 1) := by
          rw [add_mul, div_mul_cancel₀ _ power_pos.ne', zpow_sub_one₀ (by norm_num)]
          ring
      _ ≤ num / den + 2 ^ (k - 54) := by
          have coarse : (2 : ℚ) ^ (g - 1) ≤ 2 ^ (k - 54) :=
            zpow_le_zpow_right₀ (by norm_num) (by omega)
          linarith

-- Away from both ends of the format it is too large by no more than one part in 2^53.
theorem value_ofRatio_le_add (den_pos : 0 < den) (low : (1 : ℚ) ≤ num / den) {top : Int}
    (high : top ≤ 1023) (below : (num / den : ℚ) < 2 ^ top) :
    ∃ m e, ofRatio false num den = finite false m e ∧
      (m : ℚ) * 2 ^ e ≤ num / den + num / den / 2 ^ 53 := by
  have two : 1 < 2 := by decide
  have pos : (0 : ℚ) < num / den := by linarith
  have first : (2 : ℚ) ^ (Int.log 2 (num / den : ℚ)) ≤ num / den := Int.zpow_log_le_self two pos
  have next : (num / den : ℚ) < 2 ^ (Int.log 2 (num / den : ℚ) + 1) :=
    Int.lt_zpow_succ_log_self two _
  have least : 0 ≤ Int.log 2 (num / den : ℚ) :=
    (Int.zpow_le_iff_le_log two pos).mp (by rwa [zpow_zero])
  have most : Int.log 2 (num / den : ℚ) < top := (Int.lt_zpow_iff_log_lt two pos).mp below
  obtain ⟨m, e, made, _, near⟩ := representable_ofRatio den_pos (by omega) (by omega) next
  refine ⟨m, e, made, near.trans ?_⟩
  generalize Int.log 2 (num / den : ℚ) = k at first
  have step : (2 : ℚ) ^ (k + 1 - 54) = 2 ^ k / 2 ^ 53 := by
    rw [show k + 1 - 54 = k - 53 by omega, zpow_sub₀ (by norm_num)]
    norm_num
  rw [step]
  gcongr

end

-- A sum that is not negative is a rounded quotient of naturals, and so is a product without signs.
theorem add_finite {s t : Bool} (m n : Nat) (e f : Int) (mixed : (s && t) = false)
    (nonneg : 0 ≤ (finite s m e).value + (finite t n f).value) :
    ∃ num den : Nat, 0 < den ∧ (num / den : ℚ) = (finite s m e).value + (finite t n f).value ∧
      (finite s m e).add (finite t n f) = ofRatio false num den := by
  let unit := min e f
  let sum := units s m e unit + units t n f unit
  have total : (sum : ℚ) * 2 ^ unit = (finite s m e).value + (finite t n f).value := by
    rw [← units_mul s m (Int.min_le_left e f), ← units_mul t n (Int.min_le_right e f), ← add_mul,
      ← Int.cast_add]
  have unit_pos : (0 : ℚ) < 2 ^ unit := by positivity
  have nonneg : 0 ≤ sum := by
    rw [← total] at nonneg
    exact_mod_cast nonneg_of_mul_nonneg_left nonneg unit_pos
  have whole : (sum.natAbs : ℚ) = (sum : ℚ) :=
    (Int.cast_natCast _).symm.trans (congrArg Int.cast (Int.natAbs_of_nonneg nonneg))
  refine ⟨(ratio sum.natAbs unit).1, (ratio sum.natAbs unit).2, ratio_snd_pos .., ?_, ?_⟩
  · rw [ratio_div, whole, total]
  · show (if sum = 0 then _ else _) = _
    split
    · rename_i zero
      rw [zero, mixed]
      simp [ratio, ofRatio]
    · rw [decide_eq_false (not_lt.mpr nonneg)]
      rfl

theorem mul_finite (m n : Nat) (e f : Int) :
    ∃ num den : Nat, 0 < den ∧ (num / den : ℚ) = m * 2 ^ e * (n * 2 ^ f) ∧
      (finite false m e).mul (finite false n f) = ofRatio false num den := by
  refine ⟨(ratio (m * n) (e + f)).1, (ratio (m * n) (e + f)).2, ratio_snd_pos .., ?_, rfl⟩
  rw [ratio_div, zpow_add₀ (by norm_num)]
  push_cast
  ring

theorem mul_cases (m n : Nat) (e f : Int) :
    (finite false m e).mul (finite false n f) = infinite false ∨
    ∃ k g, (finite false m e).mul (finite false n f) = finite false k g := by
  obtain ⟨num, den, den_pos, _, made⟩ := mul_finite m n e f
  rw [made]
  rcases Nat.eq_zero_or_pos num with rfl | num_pos
  · exact .inr ⟨0, leastExponent, rfl⟩
  · rcases ofRatio_cases false num_pos den_pos with beyond | ⟨k, g, rounded, _⟩
    · exact .inl beyond
    · exact .inr ⟨k, g, rounded⟩

theorem div_finite (m : Nat) {n : Nat} (n_ne : n ≠ 0) (e f : Int) :
    ∃ num den : Nat, 0 < den ∧ (num / den : ℚ) = m * 2 ^ e / (n * 2 ^ f) ∧
      (finite false m e).div (finite false n f) = ofRatio false num den := by
  refine ⟨(ratio m e).1 * (ratio n f).2, (ratio m e).2 * (ratio n f).1, ?_, ?_, ?_⟩
  · exact Nat.mul_pos (ratio_snd_pos ..) (Nat.mul_pos (Nat.pos_of_ne_zero n_ne) (powerOfTwo_pos _))
  · rw [← ratio_div m e, ← ratio_div n f, div_div_div_eq]
    push_cast
    rfl
  · simp only [div, n_ne, if_false, Bool.xor_false]

theorem value_ofNat {a : Nat} (lt : a < 2 ^ 53) : (ofNat a).value = a := by
  obtain ⟨m, e, made, exact⟩ := ofNat_exact lt
  rw [made, ← exact]
  rfl

theorem value_one : one.value = 1 := (value_ofNat (by norm_num)).trans Nat.cast_one

theorem scaled_nonneg (m : Nat) (e : Int) : (0 : ℚ) ≤ m * 2 ^ e := by positivity

-- A factor of at most one makes no representable number larger.
theorem mul_le {m n : Nat} {e f : Int} (grid : Representable (m * 2 ^ e))
    (lt : (m : ℚ) * 2 ^ e < limit) (le : (n : ℚ) * 2 ^ f ≤ 1) :
    ∃ k g, (finite false m e).mul (finite false n f) = finite false k g ∧
      (k : ℚ) * 2 ^ g ≤ m * 2 ^ e := by
  obtain ⟨num, den, den_pos, same, made⟩ := mul_finite m n e f
  have smaller : (num / den : ℚ) ≤ m * 2 ^ e := by
    rw [same]
    exact mul_le_of_le_one_right (scaled_nonneg m e) le
  rw [made]
  exact value_ofRatio_le den_pos grid lt smaller

end Binary64

end Balancing
