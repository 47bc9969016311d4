import Balancing.Choice.Weighted
import Balancing.Proofs.Numbers.Rounding
import Balancing.Proofs.Numbers.Word
import Mathlib.Algebra.BigOperators.Group.List.Basic
import Mathlib.Data.List.Basic

namespace Balancing.Weighted

theorem remove_concat (front : Pool) (last : Nat × UInt64) (i : Nat) :
    remove (front ++ [last]) i = ((front ++ [last]).set i last).dropLast := by
  simp [remove]

theorem remove_perm {pool : Pool} {i : Nat} {c : Nat × UInt64} (found : pool[i]? = some c) :
    (c :: remove pool i).Perm pool := by
  rcases List.eq_nil_or_concat' pool with rfl | ⟨front, last, rfl⟩
  · simp at found
  · rw [remove_concat]
    by_cases inner : i < front.length
    · rw [List.getElem?_append_left inner, List.getElem?_eq_getElem inner] at found
      cases found
      rw [List.set_append_left _ _ inner, List.dropLast_concat]
      calc (front[i] :: front.set i last).Perm (front[i] :: last :: front.eraseIdx i) :=
            (List.set_perm_cons_eraseIdx inner last).cons _
        List.Perm _ (last :: front[i] :: front.eraseIdx i) := .swap ..
        List.Perm _ (last :: front) := (List.getElem_cons_eraseIdx_perm inner).cons last
        List.Perm _ (front ++ [last]) := (List.perm_append_singleton last front).symm
    · rw [List.getElem?_append_right (Nat.le_of_not_lt inner), List.getElem?_singleton] at found
      split at found
      · rename_i at_end
        cases found
        have at_end : i = front.length := by omega
        rw [at_end, List.set_append_right _ _ (Nat.le_refl _), Nat.sub_self, List.set_cons_zero,
          List.dropLast_concat]
        exact (List.perm_append_singleton ..).symm
      · cases found

theorem mem_of_mem_remove {pool : Pool} {i : Nat} {c d : Nat × UInt64} (found : pool[i]? = some c)
    (member : d ∈ remove pool i) : d ∈ pool :=
  (remove_perm found).mem_iff.mp (List.mem_cons_of_mem c member)

theorem length_remove {pool : Pool} {i : Nat} (inside : i < pool.length) :
    (remove pool i).length + 1 = pool.length :=
  (remove_perm (List.getElem?_eq_getElem inside)).length_eq

theorem position_lt {pool : Pool} (nonempty : pool ≠ []) {ticket sum : UInt64} {index i : Nat}
    (placed : position ticket sum index pool = .ok i) : i < index + pool.length := by
  induction pool generalizing sum index with
  | nil => exact absurd rfl nonempty
  | cons c rest ih =>
    obtain ⟨next, _, placed⟩ := bind_ok_iff.mp placed
    rw [List.length_cons]
    split at placed
    · cases placed
      omega
    · cases rest with
      | nil =>
        cases placed
        simp
      | cons d rest =>
        have later := ih (List.cons_ne_nil d rest) placed
        omega

theorem position_found {pool : Pool} (nonempty : pool ≠ []) {ticket : UInt64} {i : Nat}
    (placed : position ticket 0 0 pool = .ok i) : ∃ c, pool[i]? = some c := by
  have inside := position_lt nonempty placed
  rw [Nat.zero_add] at inside
  exact ⟨_, List.getElem?_eq_getElem inside⟩

variable {γ : Type} {ticket : UInt64 → γ → UInt64 × γ}

-- What has gone through is one draw and the draws from what it leaves.
theorem sample_succ_ok {picks : Nat} {total : UInt64} {pool : Pool} {g : γ}
    {drawn : List Nat × γ} (nonempty : pool ≠ [])
    (went : sample ticket (picks + 1) total pool g = .ok drawn) :
    ∃ i c left later, pool[i]? = some c ∧
      sample ticket picks left (remove pool i) (ticket total g).2 = .ok later ∧
      drawn = (c.1 :: later.1, later.2) := by
  rw [sample] at went
  split at went
  · cases went
  · obtain ⟨i, placed, went⟩ := bind_ok_iff.mp went
    obtain ⟨c, found⟩ := position_found nonempty placed
    simp only [found] at went
    obtain ⟨left, _, went⟩ := bind_ok_iff.mp went
    obtain ⟨later, rest, same⟩ := bind_ok_iff.mp went
    cases same
    exact ⟨i, c, left, later, found, rest, rfl⟩

theorem sample_nil {picks : Nat} {total : UInt64} {g : γ} {drawn : List Nat × γ}
    (went : sample ticket picks total [] g = .ok drawn) : drawn.1 = [] := by
  cases picks with
  | zero =>
    cases went
    rfl
  | succ picks =>
    rw [sample] at went
    split at went
    · cases went
    · cases went
      rfl

theorem sample_perm {picks : Nat} {total : UInt64} {pool : Pool} {g : γ} {drawn : List Nat × γ}
    (went : sample ticket picks total pool g = .ok drawn) :
    drawn.1.length = min picks pool.length ∧
    ∃ rest, (drawn.1 ++ rest).Perm (pool.map Prod.fst) := by
  induction picks generalizing total pool g drawn with
  | zero =>
    cases went
    exact ⟨by simp, _, .refl _⟩
  | succ picks ih =>
    by_cases empty : pool = []
    · subst empty
      rw [sample_nil went]
      exact ⟨by simp, [], .refl _⟩
    · obtain ⟨i, c, left, later, found, next, rfl⟩ := sample_succ_ok empty went
      obtain ⟨length, rest, perm⟩ := ih next
      have shrunk := length_remove (List.getElem?_eq_some_iff.mp found).1
      have removed := (remove_perm found).map Prod.fst
      refine ⟨?_, rest, (perm.cons c.1).trans removed⟩
      rw [List.length_cons, length]
      omega

-- What the weights of a pool add up to in numbers without a bound.
def mass (pool : Pool) : Nat := (pool.map fun c => c.2.toNat).sum

@[simp] theorem mass_cons (c : Nat × UInt64) (pool : Pool) :
    mass (c :: pool) = c.2.toNat + mass pool := rfl

theorem mass_remove {pool : Pool} {i : Nat} {c : Nat × UInt64} (found : pool[i]? = some c) :
    c.2.toNat + mass (remove pool i) = mass pool := by
  have same := ((remove_perm found).map fun c => c.2.toNat).sum_eq
  rw [List.map_cons, List.sum_cons] at same
  exact same

-- The total of a draw is that of the weights that are left, none of which is zero.
structure Sums (total : UInt64) (pool : Pool) : Prop where
  whole : total.toNat = mass pool
  positive : ∀ c ∈ pool, 0 < c.2

namespace Sums

variable {total : UInt64} {pool : Pool}

theorem lt (sums : Sums total pool) : mass pool < 2 ^ 64 := sums.whole ▸ total.toNat_lt

theorem ne_zero (sums : Sums total pool) (nonempty : pool ≠ []) : total ≠ 0 := by
  intro zero
  obtain ⟨c, rest, rfl⟩ := List.exists_cons_of_ne_nil nonempty
  have first := UInt64.lt_iff_toNat_lt.mp (sums.positive c List.mem_cons_self)
  have whole := sums.whole
  rw [zero, mass_cons] at whole
  simp only [UInt64.toNat_zero] at first whole
  omega

variable {i : Nat} {c : Nat × UInt64}

theorem le (sums : Sums total pool) (found : pool[i]? = some c) : c.2.toNat ≤ total.toNat := by
  have split := mass_remove found
  have whole := sums.whole
  omega

theorem remove (sums : Sums total pool) (found : pool[i]? = some c) :
    Sums (total - c.2) (remove pool i) := by
  refine ⟨?_, fun d member => sums.positive d (mem_of_mem_remove found member)⟩
  have split := mass_remove found
  have whole := sums.whole
  rw [UInt64.toNat_sub_of_le _ _ (UInt64.le_iff_toNat_le.mpr (sums.le found))]
  omega

end Sums

theorem position_cons (ticket : UInt64) {sum : UInt64} {c : Nat × UInt64}
    (fits : sum.toNat + c.2.toNat < 2 ^ 64) (index : Nat) (rest : Pool) :
    position ticket sum index (c :: rest)
      = if ticket < sum + c.2 then .ok index
        else position ticket (sum + c.2) (index + 1) rest := by
  simp only [position, Word.add_of_lt fits]
  rfl

-- While nothing leaves 64 bits every ticket falls somewhere.
theorem position_ok {pool : Pool} (ticket : UInt64) {sum : UInt64}
    (fits : sum.toNat + mass pool < 2 ^ 64) (index : Nat) :
    ∃ i, position ticket sum index pool = .ok i := by
  induction pool generalizing sum index with
  | nil => exact ⟨index - 1, rfl⟩
  | cons c rest ih =>
    rw [mass_cons] at fits
    have room : sum.toNat + c.2.toNat < 2 ^ 64 := by omega
    have next := Word.toNat_add_of_lt room
    rw [position_cons ticket room]
    split
    · exact ⟨index, rfl⟩
    · exact ih (by omega) (index + 1)

-- One draw and the draws from what it leaves.
theorem sample_of_found {picks : Nat} {total : UInt64} {pool : Pool} (sums : Sums total pool)
    {g : γ} {i : Nat} {c : Nat × UInt64} (placed : position (ticket total g).1 0 0 pool = .ok i)
    (found : pool[i]? = some c) :
    sample ticket (picks + 1) total pool g
      = (sample ticket picks (total - c.2) (remove pool i) (ticket total g).2).map
          fun later => (c.1 :: later.1, later.2) := by
  have nonempty : pool ≠ [] := by
    rintro rfl
    cases found
  have left : Word.sub total c.2 = .ok (total - c.2) := Word.sub_of_le (sums.le found)
  rw [sample, if_neg (sums.ne_zero nonempty)]
  simp only [placed, bind, Except.bind, found, left]
  cases sample ticket picks (total - c.2) (remove pool i) (ticket total g).2 <;> rfl

theorem sample_succ (ticket : UInt64 → γ → UInt64 × γ) (picks : Nat) {total : UInt64} {pool : Pool}
    (sums : Sums total pool) (nonempty : pool ≠ []) (g : γ) :
    ∃ i c, position (ticket total g).1 0 0 pool = .ok i ∧ pool[i]? = some c ∧
      sample ticket (picks + 1) total pool g
        = (sample ticket picks (total - c.2) (remove pool i) (ticket total g).2).map
            fun later => (c.1 :: later.1, later.2) := by
  have fits : (0 : UInt64).toNat + mass pool < 2 ^ 64 := by simpa using sums.lt
  obtain ⟨i, placed⟩ := position_ok (ticket total g).1 fits 0
  obtain ⟨c, found⟩ := position_found nonempty placed
  exact ⟨i, c, placed, found, sample_of_found sums placed found⟩

theorem sample_ok (ticket : UInt64 → γ → UInt64 × γ) {picks : Nat} {total : UInt64} {pool : Pool}
    (sums : Sums total pool) (enough : picks ≤ pool.length) (g : γ) :
    ∃ drawn, sample ticket picks total pool g = .ok drawn := by
  induction picks generalizing total pool g with
  | zero => exact ⟨_, rfl⟩
  | succ picks ih =>
    have nonempty : pool ≠ [] := List.ne_nil_of_length_pos (by omega)
    obtain ⟨i, c, _, found, drawn⟩ := sample_succ ticket picks sums nonempty g
    have shrunk := length_remove (List.getElem?_eq_some_iff.mp found).1
    obtain ⟨later, rest⟩ := ih (sums.remove found) (by omega) (ticket total g).2
    rw [drawn, rest]
    exact ⟨_, rfl⟩

theorem health_pos (s : Server) : 0 < health s := by
  unfold health
  omega

theorem latencyScore_pos (least greatest mean : UInt64) :
    0 < latencyScore least greatest mean := by
  have bound := Binary64.roundHalfUp_le 18446744073709551615
    (((Binary64.ofNat least.toNat).mul (.ofNat greatest.toNat)).div (.ofNat (max mean.toNat 1)))
  rw [latencyScore, UInt64.lt_iff_toNat_lt, UInt64.toNat_ofNat']
  simp only [UInt64.toNat_zero]
  omega

theorem scores_pos {servers : List Server} {score : UInt64} (member : score ∈ scores servers) :
    0 < score := by
  unfold scores at member
  dsimp only at member
  split at member
  · obtain ⟨_, _, rfl⟩ := List.mem_map.mp member
    decide
  · obtain ⟨mean, _, rfl⟩ := List.mem_map.mp member
    exact latencyScore_pos ..

theorem length_scores (servers : List Server) : (scores servers).length = servers.length := by
  unfold scores
  dsimp only
  split <;> simp

theorem length_fullWeights (servers : List Server) :
    (fullWeights servers).length = servers.length := by
  simp [fullWeights, length_scores]

theorem fullWeights_pos {servers : List Server} {weight : Nat}
    (member : weight ∈ fullWeights servers) : 0 < weight := by
  unfold fullWeights at member
  obtain ⟨i, inside, rfl⟩ := List.mem_iff_getElem.mp member
  rw [List.getElem_zipWith]
  have listed (j : Nat) (inside : j < (scores servers).length) : 0 < (scores servers)[j].toNat :=
    UInt64.lt_iff_toNat_lt.mp (scores_pos (List.getElem_mem inside))
  exact Nat.mul_pos (health_pos _) (listed i _)

theorem total_eq (ws : List UInt64) : total ws = Word.ofNat .sum (ws.map (·.toNat)).sum := by
  rw [total, Word.foldlM_add, UInt64.toNat_zero, Nat.zero_add]

theorem mass_fullPool (ws : List UInt64) : mass (fullPool ws) = (ws.map (·.toNat)).sum := by
  unfold mass fullPool
  rw [List.map_map]
  show (ws.zipIdx.map ((·.toNat) ∘ Prod.fst)).sum = _
  rw [← List.map_map, List.zipIdx_map_fst]

theorem map_fst_fullPool (ws : List UInt64) :
    (fullPool ws).map Prod.fst = List.range ws.length := by
  unfold fullPool
  rw [List.map_map]
  show ws.zipIdx.map Prod.snd = _
  rw [List.zipIdx_map_snd, List.range_eq_range']

theorem length_fullPool (ws : List UInt64) : (fullPool ws).length = ws.length := by
  simp [fullPool]

-- The weights of some servers in words that hold them, with their sum.
structure Weighs (servers : List Server) (ws : List UInt64) (sum : UInt64) : Prop where
  weights : weights servers = .ok ws
  full : ws.map (·.toNat) = fullWeights servers
  total : total ws = .ok sum
  sums : Sums sum (fullPool ws)

theorem weighs_of_fits {servers : List Server} (fits : (fullWeights servers).sum < 2 ^ 64) :
    ∃ ws sum, Weighs servers ws sum := by
  have each : ∀ n ∈ fullWeights servers, n < 2 ^ 64 := fun n member =>
    Nat.lt_of_le_of_lt (List.le_sum_of_mem member) fits
  have full := Word.map_toNat_ofNat each
  have made : weights servers = .ok ((fullWeights servers).map .ofNat) := Word.mapM_ofNat_of_lt each
  have summed : total ((fullWeights servers).map .ofNat)
      = .ok (.ofNat (fullWeights servers).sum) := by
    rw [total_eq, full, Word.ofNat_of_lt fits]
  refine ⟨_, _, made, full, summed, ?_, ?_⟩
  · rw [mass_fullPool, full, UInt64.toNat_ofNat_of_lt' fits]
  · intro c member
    obtain ⟨⟨weight, i⟩, listed, rfl⟩ := List.mem_map.mp member
    have weighed : weight.toNat ∈ fullWeights servers := by
      rw [← full]
      exact List.mem_map_of_mem (List.fst_mem_of_mem_zipIdx listed)
    exact UInt64.lt_iff_toNat_lt.mpr (fullWeights_pos weighed)

theorem length_of_weights {servers : List Server} {ws : List UInt64}
    (made : weights servers = .ok ws) : ws.length = servers.length := by
  by_cases each : ∀ n ∈ fullWeights servers, n < 2 ^ 64
  · cases made.symm.trans (Word.mapM_ofNat_of_lt each)
    rw [List.length_map, length_fullWeights]
  · have none : weights servers = .error .product := by
      refine Word.mapM_ofNat_of_le ?_
      simpa using each
    cases made.symm.trans none

theorem Weighs.length {servers : List Server} {ws : List UInt64} {sum : UInt64}
    (weighs : Weighs servers ws sum) : (fullPool ws).length = servers.length :=
  (length_fullPool ws).trans (length_of_weights weighs.weights)

theorem cycle_eq {sampled : List Nat} (nonempty : sampled ≠ []) (count : Nat) :
    cycle sampled count
      = (List.range count).map fun i => sampled.getD (i % sampled.length) 0 := by
  have positive := List.length_pos_iff.mpr nonempty
  unfold cycle
  dsimp only
  rw [← List.filterMap_eq_map]
  refine List.filterMap_congr fun i _ => ?_
  have inside : i % sampled.length < sampled.length := Nat.mod_lt _ positive
  simp [List.getElem?_eq_getElem inside]

-- The sampled places come first.
theorem take_cycle {sampled : List Nat} (nonempty : sampled ≠ []) {count round : Nat}
    (length : sampled.length = min round count) : (cycle sampled count).take round = sampled := by
  rw [cycle_eq nonempty]
  refine List.ext_getElem (by simp; omega) fun i inside inside' => ?_
  simp [Nat.mod_eq_of_lt inside', List.getElem?_eq_getElem inside']

theorem not_trivial {servers : List Server} {count : Nat} (several : 1 < servers.length)
    (positive : 0 < count) : ¬(servers.isEmpty || count = 0) := by
  rw [Bool.or_eq_true, List.isEmpty_iff, decide_eq_true_eq]
  rintro (empty | zero)
  · simp [empty] at several
  · omega

theorem order_eq {servers : List Server} {count : Nat} (several : 1 < servers.length)
    (positive : 0 < count) (g : γ) :
    order ticket servers count g = (do
      let ws ← weights servers
      let sum ← total ws
      let drawn ← sample ticket (min servers.length count) sum (fullPool ws) g
      .ok (cycle drawn.1 count, drawn.2)) := by
  unfold order
  rw [if_neg (not_trivial several positive), if_neg (by omega)]

theorem order_single {servers : List Server} (single : servers.length = 1) (count : Nat) (g : γ) :
    order ticket servers count g = .ok (List.replicate count 0, g) := by
  unfold order
  cases count with
  | zero => simp
  | succ count =>
    rw [if_neg, if_pos single]
    have nonempty : servers ≠ [] := List.ne_nil_of_length_pos (by omega)
    simp [nonempty]

theorem order_nil (count : Nat) (g : γ) : order ticket [] count g = .ok ([], g) := by
  simp [order]

theorem order_zero (servers : List Server) (g : γ) : order ticket servers 0 g = .ok ([], g) := by
  simp [order]

-- An order of several servers that has gone through is a sample that goes round.
theorem order_ok {servers : List Server} {count : Nat} {g : γ} {drawn : List Nat × γ}
    (several : 1 < servers.length) (positive : 0 < count)
    (went : order ticket servers count g = .ok drawn) :
    ∃ sampled : List Nat, drawn.1 = cycle sampled count ∧
      sampled.length = min servers.length count ∧
      ∃ rest, (sampled ++ rest).Perm (List.range servers.length) := by
  rw [order_eq several positive] at went
  obtain ⟨ws, made, went⟩ := bind_ok_iff.mp went
  obtain ⟨sum, _, went⟩ := bind_ok_iff.mp went
  obtain ⟨sampled, picked, same⟩ := bind_ok_iff.mp went
  cases same
  obtain ⟨length, perm⟩ := sample_perm picked
  rw [length_fullPool, length_of_weights made, Nat.min_right_comm, Nat.min_self] at length
  rw [map_fst_fullPool, length_of_weights made] at perm
  exact ⟨sampled.1, rfl, length, perm⟩

section

variable {servers : List Server} {count : Nat} {g : γ} {drawn : List Nat × γ}
  (went : order ticket servers count g = .ok drawn)

include went

-- As many places as asked for, all of them in the list, as soon as there is one.
theorem order_spec (nonempty : servers ≠ []) :
    drawn.1.length = count ∧ ∀ p ∈ drawn.1, p < servers.length := by
  have some := List.length_pos_iff.mpr nonempty
  by_cases single : servers.length = 1
  · rw [order_single single] at went
    cases went
    refine ⟨List.length_replicate, fun p member => ?_⟩
    rw [List.eq_of_mem_replicate member]
    exact some
  cases count with
  | zero =>
    rw [order_zero] at went
    cases went
    simp
  | succ count =>
    obtain ⟨sampled, same, length, rest, perm⟩ := order_ok (by omega) (Nat.succ_pos count) went
    have drawn : sampled ≠ [] := List.ne_nil_of_length_pos (by omega)
    rw [same, cycle_eq drawn]
    refine ⟨by simp, fun p member => ?_⟩
    obtain ⟨i, _, rfl⟩ := List.mem_map.mp member
    have inside : i % sampled.length < sampled.length :=
      Nat.mod_lt _ (List.length_pos_iff.mpr drawn)
    rw [List.getD_eq_getElem?_getD, List.getElem?_eq_getElem inside, Option.getD_some]
    exact List.mem_range.mp
      (perm.mem_iff.mp (List.mem_append_left rest (List.getElem_mem inside)))

-- The order goes round: as many places as there are servers are all different, and every later
-- place is the one a round before it.
theorem order_rounds (nonempty : servers ≠ []) :
    (drawn.1.take servers.length).Nodup ∧
    ∀ j, j < count → drawn.1[j]? = drawn.1[j % servers.length]? := by
  have some := List.length_pos_iff.mpr nonempty
  by_cases single : servers.length = 1
  · rw [order_single single] at went
    cases went
    rw [single]
    constructor
    · cases count <;> simp [List.replicate_succ]
    · intro j inside
      have first : 0 < count := by omega
      simp [Nat.mod_one, inside, first]
  cases count with
  | zero =>
    rw [order_zero] at went
    cases went
    simp
  | succ count =>
    obtain ⟨sampled, same, length, rest, perm⟩ := order_ok (by omega) (Nat.succ_pos count) went
    have drawn : sampled ≠ [] := List.ne_nil_of_length_pos (by omega)
    have distinct : sampled.Nodup :=
      (List.nodup_append.mp (perm.nodup_iff.mpr List.nodup_range)).1
    rw [same]
    constructor
    · have once : (cycle sampled (count + 1)).take servers.length = sampled :=
        take_cycle drawn length
      rw [once]
      exact distinct
    · intro j inside
      rw [cycle_eq drawn]
      have within : j % servers.length < count + 1 := Nat.lt_of_le_of_lt (Nat.mod_le ..) inside
      have same : j % servers.length % sampled.length = j % sampled.length := by
        cases Nat.le_total servers.length (count + 1) with
        | inl round => rw [show sampled.length = servers.length by omega, Nat.mod_mod]
        | inr short =>
          cases Nat.lt_or_ge j servers.length with
          | inl first => rw [Nat.mod_eq_of_lt first]
          | inr beyond => omega
      simp [inside, within, same]

end

section

variable {servers : List Server} {count : Nat} (several : 1 < servers.length) (positive : 0 < count)
  (ticket : UInt64 → γ → UInt64 × γ) (g : γ)

include several positive

theorem order_of_weighs {ws : List UInt64} {sum : UInt64} (weighs : Weighs servers ws sum) :
    order ticket servers count g
      = (sample ticket (min servers.length count) sum (fullPool ws) g).map
          fun drawn => (cycle drawn.1 count, drawn.2) := by
  rw [order_eq several positive, weighs.weights]
  show (total ws >>= fun sum => _) = _
  rw [weighs.total]
  show (sample ticket (min servers.length count) sum (fullPool ws) g >>= fun drawn => _) = _
  cases sample ticket (min servers.length count) sum (fullPool ws) g <;> rfl

theorem order_of_fits (fits : (fullWeights servers).sum < 2 ^ 64) :
    ∃ drawn, order ticket servers count g = .ok drawn := by
  obtain ⟨ws, sum, weighs⟩ := weighs_of_fits fits
  have enough : min servers.length count ≤ (fullPool ws).length := by
    rw [weighs.length]
    exact Nat.min_le_left ..
  obtain ⟨drawn, went⟩ := sample_ok ticket weighs.sums enough g
  rw [order_of_weighs several positive ticket g weighs, went]
  exact ⟨_, rfl⟩

-- Products come before sums, so one that is no word decides.
theorem order_of_product (beyond : ∃ weight ∈ fullWeights servers, 2 ^ 64 ≤ weight) :
    order ticket servers count g = .error .product := by
  have none : weights servers = .error .product := Word.mapM_ofNat_of_le beyond
  rw [order_eq several positive, none]
  rfl

theorem order_of_sum (each : ∀ weight ∈ fullWeights servers, weight < 2 ^ 64)
    (beyond : 2 ^ 64 ≤ (fullWeights servers).sum) :
    order ticket servers count g = .error .sum := by
  have made : weights servers = .ok ((fullWeights servers).map .ofNat) := Word.mapM_ofNat_of_lt each
  have none : total ((fullWeights servers).map .ofNat) = .error .sum := by
    rw [total_eq, Word.map_toNat_ofNat each, Word.ofNat_of_le beyond]
  rw [order_eq several positive, made]
  show (total _ >>= fun sum => _) = _
  rw [none]
  rfl

end

theorem order_ok_iff {servers : List Server} {count : Nat} (ticket : UInt64 → γ → UInt64 × γ)
    (g : γ) : (∃ drawn, order ticket servers count g = .ok drawn) ↔
      count = 0 ∨ servers.length ≤ 1 ∨ (fullWeights servers).sum < 2 ^ 64 := by
  cases count with
  | zero => exact iff_of_true ⟨_, order_zero servers g⟩ (.inl rfl)
  | succ count =>
    have positive := Nat.succ_pos count
    by_cases several : 1 < servers.length
    · constructor
      · rintro ⟨drawn, went⟩
        refine .inr (.inr (Nat.not_le.mp fun beyond => ?_))
        by_cases each : ∀ weight ∈ fullWeights servers, weight < 2 ^ 64
        · cases went.symm.trans (order_of_sum several positive ticket g each beyond)
        · have some : ∃ weight ∈ fullWeights servers, 2 ^ 64 ≤ weight := by simpa using each
          cases went.symm.trans (order_of_product several positive ticket g some)
      · intro fits
        exact order_of_fits several positive ticket g (by omega)
    · refine iff_of_true ?_ (.inr (.inl (Nat.not_lt.mp several)))
      by_cases single : servers.length = 1
      · exact ⟨_, order_single single count.succ g⟩
      · have empty : servers = [] := List.length_eq_zero_iff.mp (by omega)
        subst empty
        exact ⟨_, order_nil count.succ g⟩

end Balancing.Weighted
