import Balancing.Proofs.Choice.Draw
import Balancing.Proofs.Health.Sliding
import Balancing.Proofs.Numbers.Representable

namespace Balancing

namespace Binary64

theorem roundHalfUp_le_of_value {m n : Nat} {e : Int} (below : (m : ℚ) * 2 ^ e < n + 1 / 2)
    (bound : Nat) : (finite false m e).roundHalfUp bound ≤ n := by
  have den_pos : 0 < (ratio m e).2 := ratio_snd_pos m e
  have den_pos' : (0 : ℚ) < (ratio m e).2 := by exact_mod_cast den_pos
  have rounded : (finite false m e).roundHalfUp bound
      ≤ (2 * (ratio m e).1 + (ratio m e).2) / (2 * (ratio m e).2) := Nat.min_le_right ..
  refine rounded.trans (Nat.lt_succ_iff.mp ?_)
  rw [Nat.div_lt_iff_lt_mul (Nat.mul_pos Nat.two_pos den_pos)]
  rw [← ratio_div, div_lt_iff₀ den_pos'] at below
  have doubled : (2 * (ratio m e).1 + (ratio m e).2 : ℚ) < (n + 1) * (2 * (ratio m e).2) := by
    linarith
  exact_mod_cast doubled

-- A quarter above a natural number of few digits is a number of the format.
theorem representable_add_quarter {n : Nat} (few : n < 2 ^ 50) : Representable (n + 1 / 4) := by
  refine ⟨4 * n + 1, -2, by omega, by decide, ?_⟩
  push_cast
  norm_num
  ring

theorem add_quarter_lt_limit {n : Nat} (few : n < 2 ^ 50) : (n + 1 / 4 : ℚ) < limit := by
  have room : (2 : ℚ) ^ (51 : Int) ≤ limit := le_limit (by decide)
  have cast : (n : ℚ) < 2 ^ 50 := by exact_mod_cast few
  norm_num at room
  linarith

end Binary64

namespace Weighted

open Binary64

section

variable {least greatest mean : Nat} (le : least ≤ mean) (top : mean ≤ greatest)
  (few : greatest < 2 ^ 50)

include le top few

-- The product of the two outer means is rounded up by less than a quarter of a mean.
theorem product_le :
    ∃ m e, (Binary64.ofNat least).mul (.ofNat greatest) = finite false m e ∧
      (m * 2 ^ e : ℚ) ≤ mean * (greatest + 1 / 4) := by
  have le' : (least : ℚ) ≤ mean := by exact_mod_cast le
  have top' : (mean : ℚ) ≤ greatest := by exact_mod_cast top
  have few' : (greatest : ℚ) < 2 ^ 50 := by exact_mod_cast few
  have mean_nonneg : (0 : ℚ) ≤ mean := by positivity
  have greatest_nonneg : (0 : ℚ) ≤ greatest := by positivity
  obtain ⟨m, e, first, first_eq⟩ := ofNat_exact (by omega : least < 2 ^ 53)
  obtain ⟨n, f, second, second_eq⟩ := ofNat_exact (by omega : greatest < 2 ^ 53)
  obtain ⟨num, den, den_pos, exact, made⟩ := mul_finite m n e f
  rw [first_eq, second_eq] at exact
  rw [first, second, made]
  have product : (num / den : ℚ) ≤ mean * greatest := by
    rw [exact]
    gcongr
  rcases Nat.eq_zero_or_pos (least * greatest) with none | some
  · have zero : (num / den : ℚ) ≤ 0 := by
      rw [exact, ← Nat.cast_mul, none, Nat.cast_zero]
    obtain ⟨k, g, rounded, below⟩ := value_ofRatio_le den_pos
      ⟨0, leastExponent, by norm_num, le_refl _, by simp⟩ (by unfold limit; positivity) zero
    exact ⟨k, g, rounded, below.trans (by positivity)⟩
  · have low : (1 : ℚ) ≤ num / den := by
      rw [exact]
      exact_mod_cast some
    have high : (num / den : ℚ) < 2 ^ (100 : Int) := by
      calc (num / den : ℚ) ≤ mean * greatest := product
        _ ≤ greatest * greatest := by gcongr
        _ < 2 ^ 50 * 2 ^ 50 := by gcongr
        _ = 2 ^ (100 : Int) := by norm_num
    obtain ⟨k, g, rounded, near⟩ := value_ofRatio_le_add den_pos low (by decide) high
    refine ⟨k, g, rounded, near.trans ?_⟩
    have small : (greatest / 2 ^ 53 : ℚ) ≤ 1 / 4 := by
      rw [div_le_iff₀ (by norm_num)]
      linarith
    calc (num / den + num / den / 2 ^ 53 : ℚ)
        ≤ mean * greatest + mean * greatest / 2 ^ 53 := by gcongr
      _ = mean * (greatest + greatest / 2 ^ 53) := by ring
      _ ≤ mean * (greatest + 1 / 4) := by gcongr

end

-- The score of a mean between the least and the greatest one.
theorem latencyScore_le {least greatest mean : UInt64} (le : least.toNat ≤ mean.toNat)
    (top : mean.toNat ≤ greatest.toNat) (few : greatest.toNat < 2 ^ 50) :
    (latencyScore least greatest mean).toNat ≤ max greatest.toNat 1 := by
  rw [latencyScore, UInt64.toNat_ofNat']
  refine (Nat.mod_le ..).trans (max_le_max_right 1 ?_)
  generalize least.toNat = l, greatest.toNat = g, mean.toNat = n at le top few
  obtain ⟨m, e, product, below⟩ := product_le le top few
  obtain ⟨k, f, divisor, divisor_eq⟩ := ofNat_exact (by omega : max n 1 < 2 ^ 53)
  have positive : (0 : ℚ) < (max n 1 : Nat) := by positivity
  have k_ne : k ≠ 0 := by
    rintro rfl
    rw [Nat.cast_zero, zero_mul] at divisor_eq
    exact positive.ne divisor_eq
  obtain ⟨num, den, den_pos, exact, made⟩ := div_finite m k_ne e f
  have share : (num / den : ℚ) ≤ g + 1 / 4 := by
    have wider : (n : ℚ) ≤ (max n 1 : Nat) := by exact_mod_cast Nat.le_max_left n 1
    rw [exact, divisor_eq, div_le_iff₀ positive]
    calc (m * 2 ^ e : ℚ) ≤ n * (g + 1 / 4) := below
      _ ≤ (max n 1 : Nat) * (g + 1 / 4) := by gcongr
      _ = (g + 1 / 4) * (max n 1 : Nat) := mul_comm ..
  obtain ⟨p, q, rounded, most⟩ := value_ofRatio_le den_pos (representable_add_quarter few)
    (add_quarter_lt_limit few) share
  rw [product, divisor, made, rounded]
  exact roundHalfUp_le_of_value (by linarith) _

theorem toNat_min (a b : UInt64) : (min a b).toNat = min a.toNat b.toNat := by
  have chosen : min a b = if a ≤ b then a else b := rfl
  rw [chosen, apply_ite UInt64.toNat, min_def]
  exact if_congr UInt64.le_iff_toNat_le rfl rfl

theorem toNat_max (a b : UInt64) : (max a b).toNat = max a.toNat b.toNat := by
  have chosen : max a b = if a ≤ b then b else a := rfl
  rw [chosen, apply_ite UInt64.toNat, max_def]
  exact if_congr UInt64.le_iff_toNat_le rfl rfl

theorem foldl_min_le (means : List UInt64) (start : UInt64) :
    (means.foldl min start).toNat ≤ start.toNat ∧
    ∀ mean ∈ means, (means.foldl min start).toNat ≤ mean.toNat := by
  induction means generalizing start with
  | nil => exact ⟨Nat.le_refl _, by simp⟩
  | cons first means ih =>
    obtain ⟨before, within⟩ := ih (min start first)
    rw [toNat_min] at before
    rw [List.foldl_cons]
    refine ⟨before.trans (Nat.min_le_left ..), fun mean member => ?_⟩
    rcases List.mem_cons.mp member with rfl | member
    · exact before.trans (Nat.min_le_right ..)
    · exact within mean member

theorem le_foldl_max (means : List UInt64) (start : UInt64) :
    start.toNat ≤ (means.foldl max start).toNat ∧
    ∀ mean ∈ means, mean.toNat ≤ (means.foldl max start).toNat := by
  induction means generalizing start with
  | nil => exact ⟨Nat.le_refl _, by simp⟩
  | cons first means ih =>
    obtain ⟨before, within⟩ := ih (max start first)
    rw [toNat_max] at before
    rw [List.foldl_cons]
    refine ⟨(Nat.le_max_left ..).trans before, fun mean member => ?_⟩
    rcases List.mem_cons.mp member with rfl | member
    · exact (Nat.le_max_right ..).trans before
    · exact within mean member

theorem foldl_max_le {means : List UInt64} {start : UInt64} {most : Nat}
    (first : start.toNat ≤ most) (bounded : ∀ mean ∈ means, mean.toNat ≤ most) :
    (means.foldl max start).toNat ≤ most := by
  induction means generalizing start with
  | nil => exact first
  | cons mean means ih =>
    refine ih ?_ fun other member => bounded other (List.mem_cons_of_mem mean member)
    rw [toNat_max]
    exact Nat.max_le.mpr ⟨first, bounded mean List.mem_cons_self⟩

theorem scores_of_warmingUp {servers : List Server}
    (warming : ∃ s ∈ servers, s.latencies.isWarmingUp) :
    scores servers = servers.map fun _ => 1 := by
  have missing : (servers.map (·.latencies.mean?)).any Option.isNone := by
    obtain ⟨s, member, warm⟩ := warming
    rw [List.any_eq_true]
    exact ⟨_, List.mem_map_of_mem member, by simp [LatencyWindow.mean?, warm]⟩
  rw [scores]
  dsimp only
  rw [if_pos missing]

theorem scores_le {servers : List Server} {most : Nat} (few : most < 2 ^ 50)
    (bounded : ∀ s ∈ servers, s.latencies.mean.toNat ≤ most) {score : UInt64}
    (member : score ∈ scores servers) : score.toNat ≤ max most 1 := by
  unfold scores at member
  dsimp only at member
  split at member
  · obtain ⟨_, _, rfl⟩ := List.mem_map.mp member
    exact Nat.le_max_right ..
  · obtain ⟨mean, listed, rfl⟩ := List.mem_map.mp member
    have each : ∀ mean ∈ servers.map (·.latencies.mean), mean.toNat ≤ most := by
      intro mean listed
      obtain ⟨s, present, rfl⟩ := List.mem_map.mp listed
      exact bounded s present
    generalize servers.map (·.latencies.mean) = means at listed each
    have top : (means.foldl max 0).toNat ≤ most := foldl_max_le (Nat.zero_le most) each
    refine (latencyScore_le ((foldl_min_le ..).2 mean listed) ((le_foldl_max ..).2 mean listed)
      (top.trans_lt few)).trans ?_
    exact max_le_max_right 1 top

-- A window has at least one slot, and the least health is a share of it.
theorem health_le (s : Server) : health s ≤ s.errors.size := by
  have size_pos : 0 < s.errors.size := s.errors.ring.size_pos
  have successes : s.errors.successes ≤ s.errors.size := Nat.sub_le ..
  unfold health lowestHealthPercent
  omega

theorem sum_weights_le {servers : List Server} {ratings : List UInt64} {most : Nat}
    (bounded : ∀ score ∈ ratings, score.toNat ≤ most) :
    (List.zipWith (fun s score => health s * score.toNat) servers ratings).sum
      ≤ (servers.map (·.errors.size)).sum * most := by
  induction servers generalizing ratings with
  | nil => simp
  | cons s servers ih =>
    cases ratings with
    | nil => simp
    | cons score ratings =>
      have first : health s * score.toNat ≤ s.errors.size * most :=
        Nat.mul_le_mul (health_le s) (bounded score List.mem_cons_self)
      have rest := ih fun score member => bounded score (List.mem_cons_of_mem _ member)
      rw [List.zipWith_cons_cons, List.sum_cons, List.map_cons, List.sum_cons, Nat.add_mul]
      exact Nat.add_le_add first rest

theorem sum_fullWeights_le {servers : List Server} {most : Nat} (few : most < 2 ^ 50)
    (bounded : ∀ s ∈ servers, s.latencies.mean.toNat ≤ most) :
    (fullWeights servers).sum ≤ (servers.map (·.errors.size)).sum * max most 1 :=
  sum_weights_le fun _ => scores_le few bounded

theorem sum_fullWeights_le_of_warmingUp {servers : List Server}
    (warming : ∃ s ∈ servers, s.latencies.isWarmingUp) :
    (fullWeights servers).sum ≤ (servers.map (·.errors.size)).sum := by
  have ones : ∀ score ∈ scores servers, score.toNat ≤ 1 := by
    intro score member
    rw [scores_of_warmingUp warming] at member
    obtain ⟨_, _, rfl⟩ := List.mem_map.mp member
    exact Nat.le_refl 1
  rw [← Nat.mul_one (servers.map _).sum]
  exact sum_weights_le ones

end Weighted

end Balancing
