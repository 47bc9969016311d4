import Balancing.Proofs.Choice.Scores
import Balancing.Proofs.Health.Errors
import Balancing.Proofs.Health.Latencies
import Balancing.Proofs.Service.Roster
import Mathlib.Data.List.ReduceOption

namespace Balancing

theorem Server.withstands_recordOutcome {s : Server} {most : Nat}
    (stands : s.latencies.Withstands most) (isError : Bool) {micros : UInt64}
    (le : micros.toNat ≤ most) : (s.recordOutcome isError micros).latencies.Withstands most := by
  cases isError with
  | true => exact stands
  | false => exact stands.record le

namespace Weighted

-- Its windows are those that a server is built with, and have seen outcomes of such latencies.
inductive Told (windows : Windows) (most : Nat) : Server → Prop where
  | built {id : Nat} {spec : ServerSpec} {slowStart : Option SlowStart} {s : Server} :
      Server.build id spec windows slowStart = .ok s → Told windows most s
  | outcome {s : Server} (isError : Bool) {micros : UInt64} : Told windows most s →
      micros.toNat ≤ most → Told windows most (s.recordOutcome isError micros)
  | otherwise {s t : Server} : Told windows most s → t.errors = s.errors →
      t.latencies = s.latencies → Told windows most t

namespace Told

variable {windows : Windows} {most : Nat} {s : Server}

theorem size (told : Told windows most s) : s.errors.size = windows.errors := by
  induction told with
  | built built =>
    exact ErrorWindow.size_of_withLivePercent (Server.isFresh_of_build built).errors
  | outcome isError _ _ ih =>
    cases isError with
    | true => exact (ErrorWindow.size_record ..).trans ih
    | false => exact (ErrorWindow.size_record ..).trans ih
  | otherwise _ errors _ ih => rw [errors, ih]

theorem withstands (told : Told windows most s) (room : windows.latencies * most < 2 ^ 64) :
    s.latencies.Withstands most := by
  induction told with
  | built built =>
    exact .of_fresh (LatencyWindow.fresh_of_empty (Server.isFresh_of_build built).latencies) room
  | outcome isError _ bounded ih => exact Server.withstands_recordOutcome ih isError bounded
  | otherwise _ _ latencies ih => rwa [latencies]

end Told

theorem sum_sizes {servers : List Server} {windows : Windows} {most : Nat}
    (told : ∀ s ∈ servers, Told windows most s) :
    (servers.map (·.errors.size)).sum = servers.length * windows.errors := by
  have same : servers.map (·.errors.size) = List.replicate servers.length windows.errors := by
    rw [List.eq_replicate_iff]
    refine ⟨List.length_map .., fun n member => ?_⟩
    obtain ⟨s, present, rfl⟩ := List.mem_map.mp member
    exact (told s present).size
  rw [same, List.sum_replicate_nat]

-- When a draw over several servers keeps to words: all that it computes, every range among it,
-- is checked on the way.
structure InWords (servers : List Server) (count : Nat) : Prop where
  goes : ∀ {γ : Type} (ticket : UInt64 → γ → UInt64 × γ) (g : γ),
    (∃ drawn, order ticket servers count g = .ok drawn) ↔ (fullWeights servers).sum < 2 ^ 64
  product : ∀ {γ : Type} (ticket : UInt64 → γ → UInt64 × γ) (g : γ),
    (∃ weight ∈ fullWeights servers, 2 ^ 64 ≤ weight) →
      order ticket servers count g = .error .product
  sum : ∀ {γ : Type} (ticket : UInt64 → γ → UInt64 × γ) (g : γ),
    (∀ weight ∈ fullWeights servers, weight < 2 ^ 64) → 2 ^ 64 ≤ (fullWeights servers).sum →
      order ticket servers count g = .error .sum
  warmingUp : (∃ s ∈ servers, s.latencies.isWarmingUp) →
    (servers.map (·.errors.size)).sum < 2 ^ 64 → (fullWeights servers).sum < 2 ^ 64
  means : ∀ most < 2 ^ 50, (∀ s ∈ servers, s.latencies.mean.toNat ≤ most) →
    (servers.map (·.errors.size)).sum * max most 1 < 2 ^ 64 → (fullWeights servers).sum < 2 ^ 64
  told : ∀ windows, ∀ most < 2 ^ 50, (∀ s ∈ servers, Told windows most s) →
    windows.latencies * most < 2 ^ 64 → servers.length * windows.errors * max most 1 < 2 ^ 64 →
      (fullWeights servers).sum < 2 ^ 64

theorem order_in_words {servers : List Server} (several : 2 ≤ servers.length) {count : Nat}
    (positive : 1 ≤ count) : InWords servers count := by
  have bounded : ∀ most < 2 ^ 50, (∀ s ∈ servers, s.latencies.mean.toNat ≤ most) →
      (servers.map (·.errors.size)).sum * max most 1 < 2 ^ 64 →
        (fullWeights servers).sum < 2 ^ 64 :=
    fun most few means room => Nat.lt_of_le_of_lt (sum_fullWeights_le few means) room
  refine ⟨fun ticket g => ?goes, order_of_product several positive, order_of_sum several positive,
    ?warmingUp, bounded, ?told⟩
  case goes =>
    rw [order_ok_iff ticket g]
    omega
  case warmingUp =>
    intro warming room
    exact Nat.lt_of_le_of_lt (sum_fullWeights_le_of_warmingUp warming) room
  case told =>
    intro windows most few told latencies room
    refine bounded most few (fun s member => ((told s member).withstands latencies).mean_le) ?_
    rwa [sum_sizes told]

-- A server at each address that has answered once, after so long.
def answered (addresses : List String) (windows : Windows) (micros : UInt64) : List Server :=
  (addresses.zipIdx.map fun (address, id) =>
    (Server.build id { address } windows none).toOption.map
      (·.recordOutcome false micros)).reduceOption

theorem told_answered {addresses : List String} {windows : Windows} {micros : UInt64} {s : Server}
    (member : s ∈ answered addresses windows micros) : Told windows micros.toNat s := by
  obtain ⟨⟨address, id⟩, -, made⟩ := List.mem_map.mp (List.reduceOption_mem_iff.mp member)
  dsimp only at made
  cases built : Server.build id { address } windows none with
  | error e =>
    rw [built] at made
    cases made
  | ok fresh =>
    rw [built] at made
    cases made
    exact .outcome false (.built built) (Nat.le_refl _)

theorem order_of_two_answered :
    let servers := answered ["10.0.0.1:80", "10.0.0.2:80"] ⟨100, 1⟩ 250000
    ∀ w, ∃ drawn, order Words.below servers 3 w = .ok drawn := by
  intro servers w
  have length : servers.length = 2 := by decide +kernel +revert
  have words := order_in_words (by omega : 2 ≤ servers.length) (by decide : 1 ≤ 3)
  refine (words.goes Words.below w).mpr ?_
  exact words.told ⟨100, 1⟩ 250000 (by decide) (fun s => told_answered) (by decide)
    (by rw [length]; decide)

-- Both weigh 2^63, the mean latency of a single answer.
theorem two_halves_of_the_range :
    let servers := answered ["10.0.0.1:80", "10.0.0.2:80"] ⟨1, 1⟩ 9223372036854775808
    servers.length = 2 ∧ (∀ s ∈ servers, Told ⟨1, 1⟩ 9223372036854775808 s) ∧
      fullWeights servers = [9223372036854775808, 9223372036854775808] ∧
      ∀ {γ : Type} (ticket : UInt64 → γ → UInt64 × γ) (g : γ),
        order ticket servers 1 g = .error .sum := by
  intro servers
  have facts : servers.length = 2 ∧
      fullWeights servers = [9223372036854775808, 9223372036854775808] := by
    decide +kernel +revert
  obtain ⟨length, full⟩ := facts
  have several : 1 < servers.length := by omega
  have each : ∀ weight ∈ fullWeights servers, weight < 2 ^ 64 := by
    rw [full]
    decide
  have beyond : 2 ^ 64 ≤ (fullWeights servers).sum := by
    rw [full]
    decide
  refine ⟨length, fun s => told_answered, full, fun ticket g => ?_⟩
  exact order_of_sum several Nat.one_pos ticket g each beyond

end Weighted

end Balancing
