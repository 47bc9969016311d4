import Balancing.Proofs.Choice.Ranking
import Balancing.Proofs.Service.Moment

namespace Balancing

section

variable {α κ : Type} [LinearOrder κ] {f : α × Nat → κ}

-- Of elements in ascending places, those before the first least one are above it.
theorem lt_of_before_argmin {l : List (α × Nat)} (ascending : l.Pairwise (·.2 < ·.2))
    {m c : α × Nat} (least : l.argmin f = some m) (member : c ∈ l) (before : c.2 < m.2) :
    f m < f c := by
  induction l generalizing m with
  | nil => cases member
  | cons a l ih =>
    obtain ⟨later, ascending⟩ := List.pairwise_cons.mp ascending
    rw [List.argmin_cons] at least
    cases rest : l.argmin f with
    | none =>
      have empty := List.argmin_eq_none.mp rest
      simp only [rest, Option.some.injEq] at least
      simp only [empty, List.mem_singleton] at member
      subst member least
      exact absurd before (Nat.lt_irrefl _)
    | some b =>
      simp only [rest] at least
      split at least
      · rename_i less
        cases Option.some.inj least
        cases List.mem_cons.mp member with
        | inl first =>
          subst first
          exact less
        | inr member => exact ih ascending rest member before
      · cases Option.some.inj least
        cases List.mem_cons.mp member with
        | inl first =>
          subst first
          exact absurd before (Nat.lt_irrefl _)
        | inr member => exact absurd before (Nat.lt_asymm (later c member))

end

namespace LeastLoaded

-- Outside the requesting datacenter; without one nothing is outside.
def Outside (datacenter : Option String) (s : Server) : Prop :=
  ∃ dc, datacenter = some dc ∧ s.datacenter ≠ some dc

-- In the rack of a server that stands at an excluded place of the list.
def InTriedRack (servers : List Server) (excluded : List Nat) (s : Server) : Prop :=
  ∃ rack, s.rack = some rack ∧ ∃ i ∈ excluded, ∃ t, servers[i]? = some t ∧ t.rack = some rack

-- The binary number nearest to the exact quotient.
def quotient (num den : Nat) : ℚ := (Binary64.ofRatio false num den).value

theorem isRemote_iff {datacenter : Option String} {s : Server} :
    s.isRemote datacenter = true ↔ Outside datacenter s := by
  cases datacenter with
  | none => simp [Server.isRemote, Outside]
  | some dc => simp [Server.isRemote, Outside]

instance (datacenter : Option String) (s : Server) : Decidable (Outside datacenter s) :=
  decidable_of_iff _ isRemote_iff

theorem mem_racksAt {servers : List Server} {places : List Nat} {rack : String} :
    rack ∈ racksAt servers places ↔
      ∃ i ∈ places, ∃ t, servers[i]? = some t ∧ t.rack = some rack := by
  simp only [racksAt, List.mem_filterMap, Option.bind_eq_some_iff]

theorem isTriedRack_iff {servers : List Server} {excluded : List Nat} {s : Server} :
    isTriedRack (racksAt servers excluded) s = true ↔ InTriedRack servers excluded s := by
  unfold isTriedRack InTriedRack
  cases s.rack with
  | none => simp
  | some rack => simp [mem_racksAt]

instance (servers : List Server) (excluded : List Nat) (s : Server) :
    Decidable (InTriedRack servers excluded s) :=
  decidable_of_iff _ isTriedRack_iff

section

variable (servers : List Server) (excluded : List Nat) (datacenter : Option String)
  (allowRemote : Bool)

structure Eligible (i : Nat) (s : Server) : Prop where
  found : servers[i]? = some s
  active : s.active = true
  untried : i ∉ excluded
  near : allowRemote = true ∨ ¬Outside datacenter s

-- Compared from the left, the first difference deciding.
def preference (now : Instant) (s : Server) : Key :=
  let load (count : UInt32) := quotient count.toNat (s.effectiveWeight now)
  toLex (decide (Outside datacenter s), toLex (decide (InTriedRack servers excluded s),
    toLex (load s.requests, load s.statsRequests)))

-- The place that may be chosen, is above no other one, and is the first such place.
def FirstLeast (now : Instant) (i : Nat) : Prop :=
  ∃ s, Eligible servers excluded datacenter allowRemote i s ∧
    ∀ j t, Eligible servers excluded datacenter allowRemote j t →
      preference servers excluded datacenter now s ≤ preference servers excluded datacenter now t ∧
      (j < i →
        preference servers excluded datacenter now s < preference servers excluded datacenter now t)

theorem keyOf_eq_preference (now : Instant) (s : Server) :
    keyOf servers excluded datacenter now s = preference servers excluded datacenter now s := by
  have pos := s.effectiveWeight_pos now
  have lt := s.effectiveWeight_lt now
  have load (count : UInt32) :
      (Binary64.ofNat count.toNat).div (Binary64.ofNat (s.effectiveWeight now))
        = Binary64.ofRatio false count.toNat (s.effectiveWeight now) := by
    have bound := count.toNat_lt
    exact Binary64.div_ofNat (by omega) pos (by omega)
  have remote : s.isRemote datacenter = decide (Outside datacenter s) := by
    simp [← isRemote_iff]
  have tried : isTriedRack (racksAt servers excluded) s
      = decide (InTriedRack servers excluded s) := by
    simp [← isTriedRack_iff]
  simp only [keyOf, rank, Rank.key, preference, quotient, load, remote, tried]

variable {servers excluded datacenter allowRemote}

theorem mem_contenders_iff {i : Nat} {s : Server} :
    (s, i) ∈ contenders servers excluded datacenter allowRemote ↔
      Eligible servers excluded datacenter allowRemote i s := by
  rw [mem_contenders]
  unfold isEligible
  simp only [Bool.and_eq_true, Bool.or_eq_true, Bool.not_eq_true', ← Bool.not_eq_true, isRemote_iff]
  constructor
  · rintro ⟨found, ⟨active, near⟩, untried⟩
    exact ⟨found, active, untried, near⟩
  · rintro ⟨found, active, untried, near⟩
    exact ⟨found, ⟨active, near⟩, untried⟩

theorem contenders_ascending :
    (contenders servers excluded datacenter allowRemote).Pairwise (·.2 < ·.2) := by
  apply List.Pairwise.filter
  have ascending : (servers.zipIdx.map Prod.snd).Pairwise (· < ·) := by
    rw [List.zipIdx_map_snd]
    exact List.pairwise_lt_range'
  exact List.pairwise_map.mp ascending

theorem firstLeast_of_select? {now : Instant} {i : Nat}
    (chosen : select? servers excluded datacenter allowRemote now = some i) :
    FirstLeast servers excluded datacenter allowRemote now i := by
  rw [select?_eq] at chosen
  obtain ⟨⟨s, i⟩, least, rfl⟩ := Option.map_eq_some_iff.mp chosen
  refine ⟨s, mem_contenders_iff.mp (List.argmin_mem least), ?_⟩
  intro j t eligible
  have member := mem_contenders_iff.mpr eligible
  simp only [← keyOf_eq_preference]
  constructor
  · exact (List.le_of_mem_argmin member least :)
  · exact lt_of_before_argmin contenders_ascending least member

theorem firstLeast_unique {now : Instant} {i j : Nat}
    (one : FirstLeast servers excluded datacenter allowRemote now i)
    (other : FirstLeast servers excluded datacenter allowRemote now j) : i = j := by
  obtain ⟨s, eligible, least⟩ := one
  obtain ⟨t, eligible', least'⟩ := other
  rcases Nat.lt_trichotomy i j with before | same | after
  · exact absurd ((least' i s eligible).2 before) (not_lt.mpr (least j t eligible').1)
  · exact same
  · exact absurd ((least j t eligible').2 after) (not_lt.mpr (least' i s eligible).1)

theorem select?_none_iff {now : Instant} :
    select? servers excluded datacenter allowRemote now = none ↔
      ∀ i s, ¬Eligible servers excluded datacenter allowRemote i s := by
  rw [select?_eq_none_iff, List.eq_nil_iff_forall_not_mem]
  constructor
  · intro nobody i s eligible
    exact nobody (s, i) (mem_contenders_iff.mpr eligible)
  · intro nobody c member
    exact nobody c.2 c.1 (mem_contenders_iff.mp member)

theorem select?_eq_some_iff {now : Instant} {i : Nat} :
    select? servers excluded datacenter allowRemote now = some i ↔
      FirstLeast servers excluded datacenter allowRemote now i := by
  constructor
  · exact firstLeast_of_select?
  · intro first
    cases chosen : select? servers excluded datacenter allowRemote now with
    | none =>
      obtain ⟨s, eligible, _⟩ := first
      exact absurd eligible (select?_none_iff.mp chosen i s)
    | some j => rw [firstLeast_unique (firstLeast_of_select? chosen) first]

-- A lower key cannot lie outside when the higher one does not.
theorem outside_of_le {now : Instant} {s t : Server}
    (le : preference servers excluded datacenter now s
      ≤ preference servers excluded datacenter now t)
    (outside : Outside datacenter s) : Outside datacenter t := by
  by_contra inside
  simp [preference, outside, inside, Prod.Lex.toLex_le_toLex, Bool.lt_iff] at le

theorem inTriedRack_of_le {now : Instant} {s t : Server}
    (le : preference servers excluded datacenter now s
      ≤ preference servers excluded datacenter now t)
    (alike : Outside datacenter t ↔ Outside datacenter s)
    (tried : InTriedRack servers excluded s) : InTriedRack servers excluded t := by
  by_contra untried
  simp [preference, alike, tried, untried, Prod.Lex.toLex_le_toLex, Bool.lt_iff] at le

end

theorem least_loaded_first (servers : List Server) (excluded : List Nat)
    (datacenter : Option String) (allowRemote : Bool) (now : Instant) :
    let chosen := select? servers excluded datacenter allowRemote now
    let eligible := Eligible servers excluded datacenter allowRemote
    (∀ i, chosen = some i ↔ FirstLeast servers excluded datacenter allowRemote now i) ∧
    (chosen = none ↔ ∀ i s, ¬eligible i s) ∧
    ∀ i s, chosen = some i → servers[i]? = some s →
      (Outside datacenter s → ∀ j t, eligible j t → Outside datacenter t) ∧
      (InTriedRack servers excluded s → ∀ j t, eligible j t →
        (Outside datacenter t ↔ Outside datacenter s) → InTriedRack servers excluded t) := by
  intro chosen eligible
  refine ⟨fun i => select?_eq_some_iff, select?_none_iff, ?_⟩
  intro i s found here
  obtain ⟨s', first, least⟩ := firstLeast_of_select? found
  cases here.symm.trans first.found
  constructor
  · intro outside j t other
    exact outside_of_le (least j t other).1 outside
  · intro tried j t other alike
    exact inTriedRack_of_le (least j t other).1 alike tried

-- The only local server has been tried; the others lie in its rack, and the idle one is chosen.
theorem idle_remote_chosen :
    let m := (Moment.create "shop" (some "dc1") true {} 0).run [.update .empty
      [{ address := "a:80", datacenter := some "dc1", rack := some "r1" },
       { address := "b:80", datacenter := some "dc2", rack := some "r1" },
       { address := "c:80", datacenter := some "dc2", rack := some "r1" }], .acquire [0]]
    let servers := m.service.servers
    let chosen := select? servers [0] (some "dc1") true 0
    chosen = some 2 ∧ FirstLeast servers [0] (some "dc1") true 0 2 ∧
    ∀ j t, Eligible servers [0] (some "dc1") true j t →
      Outside (some "dc1") t ∧ InTriedRack servers [0] t := by
  intro m servers chosen
  have found : chosen = some 2 := by decide +kernel +revert
  have places : ∀ s ∈ servers[2]?, Outside (some "dc1") s ∧ InTriedRack servers [0] s := by
    decide +kernel +revert
  obtain ⟨first, _, others⟩ := least_loaded_first servers [0] (some "dc1") true 0
  have least := (first 2).mp found
  obtain ⟨s, eligible, _⟩ := id least
  obtain ⟨outside, tried⟩ := places s eligible.found
  obtain ⟨remote, racks⟩ := others 2 s found eligible.found
  refine ⟨found, least, fun j t other => ?_⟩
  have away := remote outside j t other
  exact ⟨away, racks tried j t other (iff_of_true away outside)⟩

end LeastLoaded

end Balancing
