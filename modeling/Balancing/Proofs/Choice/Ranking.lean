import Balancing.Choice.LeastLoaded
import Balancing.Proofs.Numbers.Rounding
import Mathlib.Data.List.MinMax
import Mathlib.Data.Prod.Lex

namespace Balancing

section

variable {α β κ κ' : Type} [LinearOrder κ] [LinearOrder κ'] {f : α → κ}

theorem argmin_map (key : β → κ) (g : α → β) (l : List α) :
    (l.map g).argmin key = (l.argmin (key ∘ g)).map g := by
  induction l with
  | nil => rfl
  | cons a l ih =>
    rw [List.map_cons, List.argmin_cons, List.argmin_cons, ih]
    cases l.argmin (key ∘ g) with
    | none => rfl
    | some c =>
      simp only [Option.map_some, Function.comp_apply]
      split <;> rfl

theorem eq_iff_of_lt_iff {a b : κ} {x y : κ'} (less : a < b ↔ x < y) (more : b < a ↔ y < x) :
    a = b ↔ x = y := by
  rw [le_antisymm_iff, le_antisymm_iff, ← not_lt, ← not_lt, ← not_lt, ← not_lt, less, more]

-- Keys that order the elements alike have the same first least element.
theorem argmin_congr {g : α → κ'} {l : List α}
    (order : ∀ a ∈ l, ∀ b ∈ l, f a < f b ↔ g a < g b) : l.argmin f = l.argmin g := by
  induction l with
  | nil => rfl
  | cons a l ih =>
    have rest := ih fun b member c member' =>
      order b (List.mem_cons_of_mem a member) c (List.mem_cons_of_mem a member')
    rw [List.argmin_cons, List.argmin_cons, rest]
    cases least : l.argmin g with
    | none => rfl
    | some b =>
      have member := List.mem_cons_of_mem a (List.argmin_mem least)
      have same := order b member a List.mem_cons_self
      dsimp only
      by_cases less : f b < f a
      · rw [if_pos less, if_pos (same.mp less)]
      · rw [if_neg less, if_neg (mt same.mpr less)]

end

namespace Server

theorem weight_toNat_pos (s : Server) : 0 < s.weight.toNat :=
  UInt32.lt_iff_toNat_lt.mp s.weight_pos

theorem effectiveWeight_pos (s : Server) (now : Instant) : 0 < s.effectiveWeight now := by
  have pos := s.weight_toNat_pos
  unfold effectiveWeight
  split
  · exact pos
  · dsimp only
    split
    · exact pos
    · omega

theorem effectiveWeight_lt (s : Server) (now : Instant) : s.effectiveWeight now < 2 ^ 32 := by
  have lt := s.weight.toNat_lt
  unfold effectiveWeight
  split
  · exact lt
  · dsimp only
    split
    · exact lt
    · have most := Binary64.truncate_le 4294967295 ((Binary64.ofNat s.weight.toNat).mul
        ((inSeconds (now - ‹SlowStart›.started)).div
          (inSeconds ‹SlowStart›.interval.nanoseconds)))
      omega

theorem effectiveWeight_of_none {s : Server} (none : s.slowStart = none) (now : Instant) :
    s.effectiveWeight now = s.weight.toNat := by
  simp only [effectiveWeight, none]

end Server

namespace LeastLoaded

abbrev Key : Type := Bool ×ₗ Bool ×ₗ ℚ ×ₗ ℚ

namespace Rank

def key (r : Rank) : Key :=
  toLex (r.remote, toLex (r.triedRack, toLex (r.load.value, r.statsLoad.value)))

structure IsFinite (r : Rank) : Prop where
  load : r.load.isFinite
  statsLoad : r.statsLoad.isFinite

theorem before_iff {a b : Rank} (first : a.IsFinite) (second : b.IsFinite) :
    a.before b ↔ a.key < b.key := by
  have load := Binary64.lt_iff first.load second.load
  have back := Binary64.lt_iff second.load first.load
  have statsLoad := Binary64.lt_iff first.statsLoad second.statsLoad
  obtain ⟨remote, triedRack, _, _⟩ := a
  obtain ⟨remote', triedRack', _, _⟩ := b
  simp only [key, Prod.Lex.toLex_lt_toLex, before]
  by_cases here : remote = remote'
  · subst here
    by_cases rack : triedRack = triedRack'
    · subst rack
      simp only [bne_self_eq_false, Bool.false_eq_true, if_false, lt_irrefl, true_and, false_or]
      split
      · rename_i less
        exact iff_of_true rfl (.inl (load.mp less))
      · rename_i not_less
        have not_less := mt load.mpr not_less
        split
        · rename_i more
          have more := back.mp more
          exact iff_of_false Bool.false_ne_true fun either =>
            either.elim not_less fun equal => more.ne' equal.1
        · rename_i not_more
          have equal := le_antisymm (not_lt.mp (mt back.mpr not_more)) (not_lt.mp not_less)
          rw [statsLoad]
          exact ⟨fun less => .inr ⟨equal, less⟩,
            fun either => either.elim (absurd · not_less) (·.2)⟩
    · cases triedRack <;> cases triedRack' <;> simp_all
  · cases remote <;> cases remote' <;> simp_all

end Rank

theorem isFinite_rank (datacenter : Option String) (tried : List String) (now : Instant)
    (s : Server) : (rank datacenter tried now s).IsFinite := by
  have pos := s.effectiveWeight_pos now
  have lt := s.effectiveWeight_lt now
  have requests := s.requests.toNat_lt
  have stats := s.statsRequests.toNat_lt
  exact ⟨Binary64.isFinite_div (by omega) pos (by omega),
    Binary64.isFinite_div (by omega) pos (by omega)⟩

theorem first?_eq {ranked : List (Nat × Rank)} (finite : ∀ c ∈ ranked, c.2.IsFinite) :
    first? ranked = ranked.argmin (·.2.key) := by
  induction ranked using List.reverseRecOn with
  | nil => rfl
  | append_singleton ranked c ih =>
    have earlier := ih fun c member => finite c (List.mem_append_left _ member)
    rw [first?, List.foldl_append, List.argmin_concat]
    unfold first? at earlier
    rw [earlier]
    cases best : ranked.argmin (·.2.key) with
    | none => rfl
    | some b =>
      have member : b ∈ ranked := List.argmin_mem (by rw [best]; rfl)
      have compared := Rank.before_iff
        (finite c (List.mem_append_right _ (List.mem_singleton_self c)))
        (finite b (List.mem_append_left _ member))
      simp only [List.foldl_cons, List.foldl_nil]
      by_cases less : c.2.before b.2
      · rw [if_pos less, if_pos (compared.mp less)]
      · rw [if_neg less, if_neg (mt compared.mpr less)]

section

variable (servers : List Server) (excluded : List Nat) (datacenter : Option String)
  (allowRemote : Bool)

-- The servers that may be chosen, with their places.
def contenders : List (Server × Nat) :=
  servers.zipIdx.filter fun (s, i) => isEligible datacenter allowRemote s && !excluded.contains i

theorem candidates_eq (now : Instant) :
    candidates servers excluded datacenter allowRemote now
      = (contenders servers excluded datacenter allowRemote).map fun (s, i) =>
        (i, rank datacenter (racksAt servers excluded) now s) := by
  unfold candidates contenders
  dsimp only
  induction servers.zipIdx with
  | nil => rfl
  | cons c rest ih =>
    rw [List.filterMap_cons, List.filter_cons, ih]
    split <;> split <;> simp_all

def keyOf (now : Instant) (s : Server) : Key :=
  (rank datacenter (racksAt servers excluded) now s).key

theorem select?_eq (now : Instant) :
    select? servers excluded datacenter allowRemote now
      = ((contenders servers excluded datacenter allowRemote).argmin fun c =>
        keyOf servers excluded datacenter now c.1).map Prod.snd := by
  unfold select?
  rw [candidates_eq, first?_eq]
  · rw [argmin_map, Option.map_map]
    rfl
  · intro c member
    obtain ⟨_, _, rfl⟩ := List.mem_map.mp member
    exact isFinite_rank ..

variable {servers excluded datacenter allowRemote}

theorem mem_contenders {s : Server} {i : Nat} :
    (s, i) ∈ contenders servers excluded datacenter allowRemote ↔
      servers[i]? = some s ∧ isEligible datacenter allowRemote s ∧ i ∉ excluded := by
  unfold contenders
  rw [List.mem_filter, List.mk_mem_zipIdx_iff_getElem?]
  simp

theorem select?_eq_none_iff {now : Instant} :
    select? servers excluded datacenter allowRemote now = none ↔
      contenders servers excluded datacenter allowRemote = [] := by
  rw [select?_eq, Option.map_eq_none_iff, List.argmin_eq_none]

-- The chosen server may be chosen, and none that may be ranks before it.
theorem select?_some {now : Instant} {i : Nat}
    (chosen : select? servers excluded datacenter allowRemote now = some i) :
    ∃ s, (s, i) ∈ contenders servers excluded datacenter allowRemote ∧
      ∀ c ∈ contenders servers excluded datacenter allowRemote,
        keyOf servers excluded datacenter now s ≤ keyOf servers excluded datacenter now c.1 := by
  rw [select?_eq] at chosen
  obtain ⟨⟨s, j⟩, least, rfl⟩ := Option.map_eq_some_iff.mp chosen
  exact ⟨s, List.argmin_mem least, fun c member => (List.le_of_mem_argmin member least :)⟩

end

end LeastLoaded

end Balancing
