namespace Balancing

universe u v w

-- A strict order in which of two different keys one comes before the other.
class KeyOrder (κ : Type u) [LT κ] : Prop where
  irrefl : ∀ a : κ, ¬ a < a
  trans : ∀ {a b c : κ}, a < b → b < c → a < c
  connex : ∀ {a b : κ}, a ≠ b → ¬ a < b → b < a

instance : KeyOrder String where
  irrefl := String.lt_irrefl
  trans := String.lt_trans
  connex := fun {a b} ne nlt => by
    by_cases gt : b < a
    · exact gt
    · exact absurd (String.le_antisymm (String.not_lt.mp gt) (String.not_lt.mp nlt)) ne

instance : KeyOrder UInt16 where
  irrefl := UInt16.lt_irrefl
  trans := UInt16.lt_trans
  connex := fun ne nlt => UInt16.lt_of_le_of_ne (UInt16.not_lt.mp nlt) (Ne.symm ne)

structure SortedMap (κ : Type u) [LT κ] (α : Type v) where
  entries : List (κ × α)
  ascending : entries.Pairwise fun a b => a.1 < b.1
  deriving DecidableEq, Repr

namespace SortedMap

section

variable {κ : Type u} [LT κ] {α : Type v} {β : Type w}

def empty : SortedMap κ α := ⟨[], .nil⟩

instance : Inhabited (SortedMap κ α) := ⟨empty⟩

def keys (m : SortedMap κ α) : List κ := m.entries.map Prod.fst

def values (m : SortedMap κ α) : List α := m.entries.map Prod.snd

def size (m : SortedMap κ α) : Nat := m.entries.length

def map (f : α → β) (m : SortedMap κ α) : SortedMap κ β :=
  ⟨m.entries.map fun (k, a) => (k, f a), List.pairwise_map.mpr m.ascending⟩

end

section

variable {κ : Type u} [DecidableEq κ] {α : Type v} {β : Type w}

def find? (k : κ) : List (κ × α) → Option α
  | [] => none
  | (k', a) :: rest => if k = k' then some a else find? k rest

theorem find?_filter (k k' : κ) (l : List (κ × α)) :
    find? k' (l.filter fun e => e.1 != k) = if k' = k then none else find? k' l := by
  induction l with
  | nil => simp [find?]
  | cons e rest ih => grind [find?]

theorem find?_map (f : α → β) (k : κ) (l : List (κ × α)) :
    find? k (l.map fun (k, a) => (k, f a)) = (find? k l).map f := by
  induction l with
  | nil => rfl
  | cons e rest ih => grind [find?]

theorem mem_of_find? {k : κ} {a : α} {l : List (κ × α)} (found : find? k l = some a) :
    (k, a) ∈ l := by
  induction l with
  | nil => cases found
  | cons e rest ih => grind [find?]

theorem isSome_find?_iff {k : κ} {l : List (κ × α)} :
    (find? k l).isSome ↔ k ∈ l.map Prod.fst := by
  induction l with
  | nil => simp [find?]
  | cons e rest ih => grind [find?]

variable [LT κ]

def get? (m : SortedMap κ α) (k : κ) : Option α := find? k m.entries

def contains (m : SortedMap κ α) (k : κ) : Bool := (m.get? k).isSome

def erase (m : SortedMap κ α) (k : κ) : SortedMap κ α :=
  ⟨m.entries.filter fun e => e.1 != k, m.ascending.filter _⟩

@[simp] theorem get?_empty (k : κ) : (empty : SortedMap κ α).get? k = none := rfl

@[simp] theorem get?_erase (m : SortedMap κ α) (k k' : κ) :
    (m.erase k).get? k' = if k' = k then none else m.get? k' :=
  find?_filter k k' m.entries

@[simp] theorem get?_map (f : α → β) (m : SortedMap κ α) (k : κ) :
    (m.map f).get? k = (m.get? k).map f :=
  find?_map f k m.entries

theorem mem_entries_of_get? {m : SortedMap κ α} {k : κ} {a : α} (found : m.get? k = some a) :
    (k, a) ∈ m.entries := mem_of_find? found

theorem mem_keys_iff {m : SortedMap κ α} {k : κ} : k ∈ m.keys ↔ (m.get? k).isSome :=
  isSome_find?_iff.symm

end

section

variable {κ : Type u} [DecidableEq κ] [LT κ] [DecidableLT κ] {α : Type v}

-- Puts an entry in its place among ascending ones, instead of one with the same key.
def place (k : κ) (a : α) : List (κ × α) → List (κ × α)
  | [] => [(k, a)]
  | (k', a') :: rest =>
    if k = k' then (k, a) :: rest
    else if k < k' then (k, a) :: (k', a') :: rest
    else (k', a') :: place k a rest

theorem find?_place (k k' : κ) (a : α) (l : List (κ × α)) :
    find? k' (place k a l) = if k' = k then some a else find? k' l := by
  induction l with
  | nil => simp [place, find?]
  | cons e rest ih => grind [place, find?]

theorem mem_place {k : κ} {a : α} {e : κ × α} {l : List (κ × α)} (h : e ∈ place k a l) :
    e = (k, a) ∨ e ∈ l := by
  induction l with
  | nil => simpa [place] using h
  | cons _ _ ih => grind [place]

variable [KeyOrder κ]

theorem ascending_place (k : κ) (a : α) {l : List (κ × α)}
    (h : l.Pairwise fun a b => a.1 < b.1) : (place k a l).Pairwise fun a b => a.1 < b.1 := by
  induction l with
  | nil => simp [place]
  | cons e rest ih =>
    obtain ⟨first, later⟩ := List.pairwise_cons.mp h
    rw [place]
    split
    · subst k
      exact List.pairwise_cons.mpr ⟨first, later⟩
    · split
      · rename_i lt
        refine List.pairwise_cons.mpr ⟨fun e' mem => ?_, h⟩
        rcases List.mem_cons.mp mem with rfl | mem
        · exact lt
        · exact KeyOrder.trans lt (first e' mem)
      · rename_i ne nlt
        refine List.pairwise_cons.mpr ⟨fun e' mem => ?_, ih later⟩
        rcases mem_place mem with rfl | mem
        · exact KeyOrder.connex ne nlt
        · exact first e' mem

def insert (m : SortedMap κ α) (k : κ) (a : α) : SortedMap κ α :=
  ⟨place k a m.entries, ascending_place k a m.ascending⟩

-- Of entries with one key the last counts.
def ofList (l : List (κ × α)) : SortedMap κ α :=
  l.foldl (fun m e => m.insert e.1 e.2) empty

@[simp] theorem get?_insert (m : SortedMap κ α) (k k' : κ) (a : α) :
    (m.insert k a).get? k' = if k' = k then some a else m.get? k' :=
  find?_place k k' a m.entries

theorem isSome_get?_foldl (m : SortedMap κ α) (l : List (κ × α)) (k : κ) :
    ((l.foldl (fun m e => m.insert e.1 e.2) m).get? k).isSome
      ↔ (m.get? k).isSome ∨ k ∈ l.map Prod.fst := by
  induction l generalizing m with
  | nil => simp
  | cons e rest ih =>
    rw [List.foldl_cons, ih, get?_insert, List.map_cons, List.mem_cons]
    by_cases same : k = e.1 <;> simp [same]

theorem mem_keys_ofList {l : List (κ × α)} {k : κ} : k ∈ (ofList l).keys ↔ k ∈ l.map Prod.fst := by
  rw [mem_keys_iff, ofList, isSome_get?_foldl]
  simp

end

theorem nodup_keys {κ : Type u} [LT κ] [KeyOrder κ] {α : Type v} (m : SortedMap κ α) :
    m.keys.Nodup := by
  refine List.pairwise_map.mpr (m.ascending.imp fun {e e'} lt same => ?_)
  rw [same] at lt
  exact KeyOrder.irrefl _ lt

section

variable {κ : Type u} [DecidableEq κ] [LT κ] [KeyOrder κ] {α : Type v}

theorem find?_of_all_gt {k : κ} {l : List (κ × α)} (h : ∀ e ∈ l, k < e.1) : find? k l = none := by
  induction l with
  | nil => rfl
  | cons e rest ih =>
    have gt := h e (List.mem_cons_self ..)
    have ne : k ≠ e.1 := fun eq => KeyOrder.irrefl _ (eq ▸ gt)
    simp only [find?, ne, if_false]
    exact ih fun e' mem => h e' (List.mem_cons_of_mem _ mem)

theorem find?_of_lt_first {k : κ} {e : κ × α} {l : List (κ × α)}
    (h : (e :: l).Pairwise fun a b => a.1 < b.1) (lt : k < e.1) : find? k (e :: l) = none := by
  refine find?_of_all_gt fun x mem => ?_
  rcases List.mem_cons.mp mem with rfl | mem
  · exact lt
  · exact KeyOrder.trans lt ((List.pairwise_cons.mp h).1 x mem)

-- The lesser of two different first keys would be found in only one of the lists.
theorem first_eq_of_find?_eq {e e' : κ × α} {l l' : List (κ × α)}
    (h : (e :: l).Pairwise fun a b => a.1 < b.1) (h' : (e' :: l').Pairwise fun a b => a.1 < b.1)
    (same : ∀ k, find? k (e :: l) = find? k (e' :: l')) : e = e' := by
  have key : e.1 = e'.1 := by
    by_cases eq : e.1 = e'.1
    · exact eq
    · by_cases lt : e.1 < e'.1
      · have found := (same e.1).trans (find?_of_lt_first h' lt)
        simp [find?] at found
      · have found := (same e'.1).symm.trans (find?_of_lt_first h (KeyOrder.connex eq lt))
        simp [find?] at found
  have value : e.2 = e'.2 := by simpa [find?, key] using same e.1
  exact Prod.ext key value

theorem eq_of_find?_eq {l l' : List (κ × α)} (h : l.Pairwise fun a b => a.1 < b.1)
    (h' : l'.Pairwise fun a b => a.1 < b.1) (same : ∀ k, find? k l = find? k l') : l = l' := by
  induction l generalizing l' with
  | nil =>
    cases l' with
    | nil => rfl
    | cons e _ => simpa [find?] using same e.1
  | cons e rest ih =>
    cases l' with
    | nil => simpa [find?] using same e.1
    | cons e' rest' =>
      obtain rfl := first_eq_of_find?_eq h h' same
      obtain ⟨first, later⟩ := List.pairwise_cons.mp h
      obtain ⟨first', later'⟩ := List.pairwise_cons.mp h'
      have tails : rest = rest' := ih later later' fun k => by
        by_cases eq : k = e.1
        · rw [eq, find?_of_all_gt first, find?_of_all_gt first']
        · simpa [find?, eq] using same k
      rw [tails]

theorem ext_get? {m n : SortedMap κ α} (same : ∀ k, m.get? k = n.get? k) : m = n := by
  obtain ⟨entries, ascending⟩ := m
  obtain ⟨entries', ascending'⟩ := n
  have eq : entries = entries' := eq_of_find?_eq ascending ascending' same
  subst eq
  rfl

end

section

variable {κ : Type u} [DecidableEq κ] {α : Type v}

theorem find?_eq_some_iff {l : List (κ × α)} (nodup : (l.map Prod.fst).Nodup) {k : κ} {a : α} :
    find? k l = some a ↔ (k, a) ∈ l := by
  refine ⟨mem_of_find?, fun member => ?_⟩
  induction l with
  | nil => cases member
  | cons e rest ih =>
    obtain ⟨new, nodup⟩ := List.nodup_cons.mp nodup
    rcases List.mem_cons.mp member with rfl | later
    · exact if_pos rfl
    · have other : k ≠ e.1 := fun same => new (same ▸ List.mem_map_of_mem later)
      exact (if_neg other).trans (ih nodup later)

variable [LT κ] [KeyOrder κ]

theorem get?_eq_some_iff {m : SortedMap κ α} {k : κ} {a : α} :
    m.get? k = some a ↔ (k, a) ∈ m.entries := find?_eq_some_iff m.nodup_keys

theorem get?_ofList [DecidableLT κ] {l : List (κ × α)} (nodup : (l.map Prod.fst).Nodup) (k : κ) :
    (ofList l).get? k = find? k l := by
  suffices h : ∀ m : SortedMap κ α,
      (l.foldl (fun m e => m.insert e.1 e.2) m).get? k = (find? k l).or (m.get? k) by
    rw [ofList, h, get?_empty, Option.or_none]
  induction l with
  | nil => exact fun m => rfl
  | cons e rest ih =>
    intro m
    obtain ⟨new, nodup⟩ := List.nodup_cons.mp nodup
    rw [List.foldl_cons, ih nodup, get?_insert, find?]
    split
    · rename_i same
      have absent : find? k rest = none := by
        rw [← Option.not_isSome_iff_eq_none, isSome_find?_iff, same]
        exact new
      rw [absent]
      rfl
    · rfl

theorem ofList_entries [DecidableLT κ] (m : SortedMap κ α) : ofList m.entries = m :=
  ext_get? fun k => get?_ofList m.nodup_keys k

end

end SortedMap

end Balancing
