import Balancing.Proofs.Numbers.Representable
import Balancing.Registry

namespace Balancing.Registry

open Binary64

-- The share of the known servers that a list has to have.
def share (allowed : Binary64) : Binary64 := one.sub (clampToUnit allowed)

variable {allowed : Binary64}

theorem one_finite : ∃ m e, one = finite false m e ∧ (finite false m e).value = 1 := by
  obtain ⟨m, e, made, _⟩ := ofNat_exact (a := 1) (by norm_num)
  exact ⟨m, e, made, made ▸ value_one⟩

-- A NaN stays one, everything else ends within zero and one.
theorem clampToUnit_cases (allowed : Binary64) : clampToUnit allowed = nan ∨
    ∃ s m e, clampToUnit allowed = finite s m e ∧ 0 ≤ (finite s m e).value ∧
      (finite s m e).value ≤ 1 := by
  have zero_in : ∃ s m e, zero = finite s m e ∧ 0 ≤ (finite s m e).value ∧
      (finite s m e).value ≤ 1 := ⟨_, _, _, rfl, by simp [value], by simp [value]⟩
  have one_in : ∃ s m e, one = finite s m e ∧ 0 ≤ (finite s m e).value ∧
      (finite s m e).value ≤ 1 := by
    obtain ⟨m, e, made, is_one⟩ := one_finite
    exact ⟨false, m, e, made, is_one ▸ zero_le_one, is_one.le⟩
  unfold clampToUnit
  split
  · exact .inr zero_in
  · rename_i not_below
    split
    · exact .inr one_in
    · rename_i not_above
      cases allowed with
      | nan => exact .inl rfl
      | infinite negative => cases negative <;> contradiction
      | finite s m e =>
        refine .inr ⟨s, m, e, rfl, ?_, ?_⟩
        · rw [lt_iff rfl rfl, not_lt] at not_below
          exact (by simp [value, zero] : zero.value = 0) ▸ not_below
        · rw [lt_iff rfl rfl, not_lt] at not_above
          exact value_one ▸ not_above

-- One less a part of it.
theorem one_sub {s : Bool} {m : Nat} {e : Int} (le : (finite s m e).value ≤ 1) :
    ∃ num den : Nat, 0 < den ∧ (num / den : ℚ) = 1 - (finite s m e).value ∧
      one.sub (finite s m e) = ofRatio false num den := by
  obtain ⟨n, f, made, is_one⟩ := one_finite
  have flipped : (finite (!s) m e).value = -(finite s m e).value := by cases s <;> simp [value]
  have sum : (finite false n f).value + (finite (!s) m e).value = 1 - (finite s m e).value := by
    rw [is_one, flipped]
    ring
  obtain ⟨num, den, den_pos, quotient, rounds⟩ :=
    add_finite (s := false) (t := !s) n m f e rfl (by rw [sum]; linarith)
  refine ⟨num, den, den_pos, quotient.trans sum, ?_⟩
  rw [← rounds, ← made]
  rfl

theorem share_cases (allowed : Binary64) : share allowed = nan ∨
    ∃ m e, share allowed = finite false m e ∧ leastExponent ≤ e ∧ (m : ℚ) * 2 ^ e ≤ 1 := by
  unfold share
  rcases clampToUnit_cases allowed with clamped | ⟨s, m, e, clamped, nonneg, le⟩
  · rw [clamped]
    exact .inl rfl
  · obtain ⟨num, den, den_pos, quotient, rounds⟩ := one_sub le
    have below : (num / den : ℚ) ≤ 1 := by
      rw [quotient]
      linarith
    obtain ⟨n, f, made, small⟩ := value_ofRatio_le den_pos
      ⟨1, 0, by norm_num, by decide, by norm_num⟩
      (by rw [limit]; exact one_lt_zpow₀ (by norm_num) (by decide)) below
    have format := inFormat_ofRatio false num den_pos
    rw [made] at format
    exact .inr ⟨n, f, by rw [clamped, rounds, made], format.2.1, small⟩

theorem zero_lt_finite_iff {m : Nat} {e : Int} : zero.lt (finite false m e) = true ↔ 0 < m := by
  have power_pos : (0 : ℚ) < 2 ^ e := by positivity
  rw [lt_iff rfl rfl]
  simp only [zero, value, Bool.false_eq_true, if_false, Nat.cast_zero, zero_mul]
  rw [mul_pos_iff_of_pos_right power_pos, Nat.cast_pos]

-- What is at least the smallest positive number does not vanish in rounding.
theorem zero_lt_ofRatio {num den : Nat} (den_pos : 0 < den)
    (le : (2 : ℚ) ^ leastExponent ≤ num / den) : zero.lt (ofRatio false num den) = true := by
  rcases le_value_ofRatio den_pos (le_refl _) le with made | ⟨m, e, made, above⟩
  · rw [made]
    rfl
  · rw [made, zero_lt_finite_iff]
    have unit_pos : (0 : ℚ) < 2 ^ leastExponent := by positivity
    have power_pos : (0 : ℚ) < 2 ^ e := by positivity
    exact_mod_cast pos_of_mul_pos_left (unit_pos.trans_le above) power_pos.le

theorem zero_lt_mul {k m : Nat} {g e : Int} (one_le : (1 : ℚ) ≤ k * 2 ^ g)
    (least : leastExponent ≤ e) (pos : 0 < m) :
    zero.lt ((finite false k g).mul (finite false m e)) = true := by
  obtain ⟨num, den, den_pos, product, made⟩ := mul_finite k m g e
  rw [made]
  refine zero_lt_ofRatio den_pos ?_
  have scaled_nonneg := scaled_nonneg m e
  calc (2 : ℚ) ^ leastExponent ≤ 2 ^ e := zpow_le_zpow_right₀ (by norm_num) least
    _ ≤ m * 2 ^ e := le_mul_of_one_le_left (by positivity) (by exact_mod_cast pos)
    _ ≤ k * 2 ^ g * (m * 2 ^ e) := le_mul_of_one_le_left scaled_nonneg one_le
    _ = num / den := product.symm

theorem pos_of_zero_lt_mul {k m : Nat} {g e : Int}
    (above : zero.lt ((finite false k g).mul (finite false m e)) = true) : 0 < k ∧ 0 < m := by
  obtain ⟨num, den, den_pos, product, made⟩ := mul_finite k m g e
  rw [made] at above
  have num_pos : 0 < num := by
    refine Nat.pos_of_ne_zero ?_
    rintro rfl
    exact (zero_lt_finite_iff.mp above).false
  have product_ne : (k : ℚ) * 2 ^ g * (m * 2 ^ e) ≠ 0 := by
    rw [← product]
    positivity
  constructor
  · refine Nat.pos_of_ne_zero ?_
    rintro rfl
    simp at product_ne
  · refine Nat.pos_of_ne_zero ?_
    rintro rfl
    simp at product_ne

-- The numbers of the format lie at least the smallest positive one apart.
theorem zero_lt_one_sub {s : Bool} {m : Nat} {e : Int} (least : leastExponent ≤ e)
    (below : (finite s m e).value < 1) : zero.lt (one.sub (finite s m e)) = true := by
  obtain ⟨num, den, den_pos, quotient, rounds⟩ := one_sub below.le
  rw [rounds]
  refine zero_lt_ofRatio den_pos ?_
  have unit_pos : (0 : ℚ) < 2 ^ leastExponent := by positivity
  have part := units_mul s m least
  have whole := units_mul false 1 (by decide : leastExponent ≤ 0)
  have is_one : (finite false 1 0).value = 1 := by simp [value]
  rw [is_one] at whole
  rw [← part, ← whole, mul_lt_mul_iff_left₀ unit_pos, Int.cast_lt] at below
  have step : (units s m e leastExponent : ℚ) + 1 ≤ units false 1 0 leastExponent := by
    exact_mod_cast below
  rw [quotient, ← part, ← whole, ← sub_mul]
  exact le_mul_of_one_le_left unit_pos.le (by linarith)

theorem share_pos (format : allowed.InFormat) (below : allowed.lt one = true) :
    zero.lt (share allowed) = true := by
  have none_lost : zero.lt (one.sub zero) = true :=
    zero_lt_one_sub (le_refl _) (by simp [value])
  obtain ⟨n, f, made, is_one⟩ := one_finite
  rw [share, clampToUnit]
  cases allowed with
  | nan => cases below
  | infinite negative =>
    cases negative with
    | false =>
      rw [made] at below
      cases below
    | true => exact none_lost
  | finite s m e =>
    rw [made, lt_iff rfl rfl, is_one] at below
    have not_above : ¬one.lt (finite s m e) = true := by
      rw [made, lt_iff rfl rfl, is_one, not_lt]
      exact below.le
    rw [if_neg not_above]
    split
    · exact none_lost
    · exact zero_lt_one_sub format.2.1 below

-- A count of servers; counts beyond the format are infinite.
theorem ofNat_cases (n : Nat) : ofNat n = infinite false ∨
    ∃ m e, ofNat n = finite false m e ∧ (finite false m e).InFormat ∧
      (0 < n → (1 : ℚ) ≤ m * 2 ^ e) := by
  have format := inFormat_ofRatio false n one_pos
  rcases Nat.eq_zero_or_pos n with rfl | pos
  · exact .inr ⟨0, leastExponent, rfl, format, fun absurd => absurd.false.elim⟩
  · have least : (2 : ℚ) ^ (0 : Int) ≤ n / (1 : Nat) := by
      rw [zpow_zero, Nat.cast_one, div_one]
      exact_mod_cast pos
    rcases le_value_ofRatio one_pos (by decide) least with made | ⟨m, e, made, above⟩
    · exact .inl made
    · rw [made] at format
      exact .inr ⟨m, e, made, format, fun _ => above⟩

-- Without a share to keep every list passes.
theorem not_lt_mul_nan (x y : Binary64) : x.lt (y.mul nan) = false := by
  have product : y.mul nan = nan := by cases y <;> rfl
  rw [product]
  cases x <;> rfl

theorem not_isDegraded_self (allowed : Binary64) (n : Nat) :
    isDegraded allowed n n = false := by
  rw [isDegraded, ← share]
  rcases share_cases allowed with kept | ⟨m, e, kept, _, le⟩
  · rw [kept, not_lt_mul_nan]
  · rw [kept, ← Bool.not_eq_true]
    rcases ofNat_cases n with many | ⟨k, g, count, format, _⟩
    · rw [many, mul]
      split <;> decide
    · obtain ⟨k', g', made, smaller⟩ := mul_le format.representable format.lt_limit le
      rw [count, made, lt_iff rfl rfl, not_lt]
      simpa [value] using smaller

-- An empty list passes if nothing is known or nothing has to be kept.
theorem isDegraded_zero_iff (allowed : Binary64) (known : Nat) :
    isDegraded allowed known 0 = true ↔ 0 < known ∧ zero.lt (share allowed) = true := by
  rw [isDegraded, ← share]
  show zero.lt ((ofNat known).mul (share allowed)) = true ↔ _
  rcases share_cases allowed with kept | ⟨m, e, kept, least, le⟩
  · rw [kept, not_lt_mul_nan]
    exact ⟨nofun, fun both => nomatch both.2⟩
  · rw [kept, zero_lt_finite_iff]
    rcases ofNat_cases known with many | ⟨k, g, count, _, positive⟩
    · have some_known : 0 < known := by
        refine Nat.pos_of_ne_zero ?_
        rintro rfl
        cases many
      rw [many, mul]
      split
      · rename_i none_kept
        exact ⟨nofun, fun both => absurd none_kept both.2.ne'⟩
      · rename_i some_kept
        exact ⟨fun _ => ⟨some_known, Nat.pos_of_ne_zero some_kept⟩, fun _ => rfl⟩
    · rw [count]
      constructor
      · intro short
        obtain ⟨some_counted, some_kept⟩ := pos_of_zero_lt_mul short
        refine ⟨Nat.pos_of_ne_zero ?_, some_kept⟩
        rintro rfl
        cases count
        exact some_counted.false
      · rintro ⟨some_known, some_kept⟩
        exact zero_lt_mul (positive some_known) least some_kept

theorem check_eq_ok_iff {settings : Settings} {name : String} {known : Nat}
    {specs : List ServerSpec} :
    check settings name known specs = .ok () ↔
      isDegraded settings.allowedDegradation known specs.length = false ∧
      ∀ dc, settings.skipWithoutLocal = true → settings.datacenter = some dc →
        hasLocal dc specs = true := by
  unfold check
  cases isDegraded settings.allowedDegradation known specs.length with
  | true => simp
  | false =>
    cases settings.skipWithoutLocal with
    | false => simp
    | true =>
      cases settings.datacenter with
      | none => simp
      | some dc => cases here : hasLocal dc specs <;> simp [here]

theorem knownSize_some (s : Service) (initialSize : Option Nat) :
    knownSize (some s) initialSize
      = if s.servers.length = 0 then initialSize.getD 0 else s.servers.length := by
  simp [knownSize, List.isEmpty_iff]

-- What the directory expects counts also where servers have been counted before.
theorem knownSize_pos {existing : Option Service} {initialSize : Option Nat}
    (expected : 0 < initialSize.getD 0) : 0 < knownSize existing initialSize := by
  cases existing with
  | none => exact expected
  | some s =>
    rw [knownSize_some]
    split
    · exact expected
    · rename_i counted
      exact Nat.pos_of_ne_zero counted

end Balancing.Registry
