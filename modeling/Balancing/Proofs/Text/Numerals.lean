import Balancing.Text
import Mathlib.Data.List.Induction
import Mathlib.Data.List.TakeWhile

namespace Balancing.Text

-- At least one digit, the most significant one first.
inductive Digits : List Char → Nat → Prop where
  | one {c : Char} (digit : c.isDigit) : Digits [c] (c.toNat - 48)
  | more {cs : List Char} {n : Nat} {c : Char} (before : Digits cs n) (digit : c.isDigit) :
    Digits (cs ++ [c]) (10 * n + (c.toNat - 48))

def Numeral (text : List Char) (n : Nat) : Prop :=
  ∃ digits, (text = digits ∨ text = '+' :: digits) ∧ Digits digits n

-- A numeral with blanks around it.
def Spells (text : List Char) (n : Nat) : Prop :=
  ∃ left numeral right, text = left ++ (numeral ++ right) ∧ (∀ c ∈ left, isBlank c) ∧
    (∀ c ∈ right, isBlank c) ∧ Numeral numeral n

theorem digitsValue_append_one (cs : List Char) (c : Char) :
    digitsValue (cs ++ [c]) = 10 * digitsValue cs + (c.toNat - 48) := by
  unfold digitsValue
  rw [List.foldl_append]
  rfl

theorem digits_iff {cs : List Char} {n : Nat} :
    Digits cs n ↔ cs ≠ [] ∧ (∀ c ∈ cs, c.isDigit) ∧ digitsValue cs = n := by
  constructor
  · intro digits
    induction digits with
    | one digit => simp [digit, digitsValue]
    | more before digit ih =>
      obtain ⟨_, all, value⟩ := ih
      refine ⟨by simp, ?_, by rw [digitsValue_append_one, value]⟩
      intro c member
      rcases List.mem_append.mp member with old | last
      · exact all c old
      · rw [List.mem_singleton.mp last]
        exact digit
  · rintro ⟨some, all, rfl⟩
    induction cs using List.reverseRecOn with
    | nil => exact absurd rfl some
    | append_singleton cs c ih =>
      have digit : c.isDigit := all c (by simp)
      cases cs with
      | nil => simpa [digitsValue] using Digits.one digit
      | cons first rest =>
        rw [digitsValue_append_one]
        refine .more (ih (List.cons_ne_nil _ _) fun c' member => ?_) digit
        exact all c' (List.mem_append_left _ member)

theorem digits_toDigits (n : Nat) : Digits (Nat.toDigits 10 n) n :=
  digits_iff.mpr ⟨Nat.toDigits_ne_nil,
    fun _ member => Nat.isDigit_of_mem_toDigits (by decide) (by decide) member,
    Nat.ofDigitChars_ten_toDigits⟩

theorem unsigned?_eq_some_iff {bound n : Nat} {text : List Char} :
    unsigned? bound text = some n ↔ Numeral text n ∧ n ≤ bound := by
  have read : unsigned? bound text = some n ↔ Digits (withoutPlus text) n ∧ n ≤ bound := by
    rw [digits_iff]
    simp only [unsigned?, Option.ite_none_right_eq_some, Bool.and_eq_true, Bool.not_eq_true',
      List.isEmpty_eq_false_iff, List.all_eq_true, decide_eq_true_eq, Option.some.injEq]
    constructor
    · rintro ⟨⟨⟨some, all⟩, le⟩, rfl⟩
      exact ⟨⟨some, all, rfl⟩, le⟩
    · rintro ⟨⟨some, all, rfl⟩, le⟩
      exact ⟨⟨⟨some, all⟩, le⟩, rfl⟩
  rw [read, and_congr_left_iff]
  intro _
  constructor
  · intro digits
    refine ⟨_, ?_, digits⟩
    unfold withoutPlus
    split
    · exact .inr rfl
    · exact .inl rfl
  · rintro ⟨digits, rfl | rfl, written⟩
    · have kept : withoutPlus text = text := by
        unfold withoutPlus
        split
        · have digit := (digits_iff.mp written).2.1 '+' List.mem_cons_self
          cases digit
        · rfl
      rw [kept]
      exact written
    · exact written

theorem not_isBlank_of_isDigit {c : Char} (digit : c.isDigit) : isBlank c = false := by
  simp only [Char.isDigit, Bool.and_eq_true, decide_eq_true_eq] at digit
  have low : 48 ≤ c.toNat := digit.1
  have high : c.toNat ≤ 57 := digit.2
  unfold isBlank
  simp
  omega

-- A text that begins and ends with something else than a blank.
structure Bare (text : List Char) : Prop where
  first : ∃ c, text.head? = some c ∧ isBlank c = false
  last : ∃ c, text.getLast? = some c ∧ isBlank c = false

theorem dropWhile_blanks {blanks rest : List Char} (blank : ∀ c ∈ blanks, isBlank c)
    (first : ∃ c, rest.head? = some c ∧ isBlank c = false) :
    (blanks ++ rest).dropWhile isBlank = rest := by
  obtain ⟨c, head, other⟩ := first
  obtain ⟨tail, rfl⟩ := List.head?_eq_some_iff.mp head
  rw [List.dropWhile_append_of_pos blank, List.dropWhile_cons_of_neg (by simp [other])]

theorem trim_of_bare {left text right : List Char} (bare : Bare text)
    (before : ∀ c ∈ left, isBlank c) (after : ∀ c ∈ right, isBlank c) :
    trim (left ++ (text ++ right)) = text := by
  have front : (left ++ (text ++ right)).dropWhile isBlank = text ++ right := by
    refine dropWhile_blanks before ?_
    obtain ⟨c, head, other⟩ := bare.first
    exact ⟨c, by rw [List.head?_append, head, Option.some_or], other⟩
  have back : (text ++ right).reverse.dropWhile isBlank = text.reverse := by
    rw [List.reverse_append]
    refine dropWhile_blanks (fun c member => after c (List.mem_reverse.mp member)) ?_
    rw [List.head?_reverse]
    exact bare.last
  rw [trim, front, back, List.reverse_reverse]

theorem trim_spec (text : List Char) : ∃ left right, text = left ++ (trim text ++ right) ∧
    (∀ c ∈ left, isBlank c) ∧ (∀ c ∈ right, isBlank c) := by
  let rest := text.dropWhile isBlank
  refine ⟨text.takeWhile isBlank, (rest.reverse.takeWhile isBlank).reverse, ?_, ?_, ?_⟩
  · rw [trim, ← List.reverse_append, List.takeWhile_append_dropWhile, List.reverse_reverse,
      List.takeWhile_append_dropWhile]
  · exact fun c member => List.mem_takeWhile_imp member
  · exact fun c member => List.mem_takeWhile_imp (List.mem_reverse.mp member)

theorem bare_of_numeral {text : List Char} {n : Nat} (numeral : Numeral text n) : Bare text := by
  obtain ⟨digits, plus, written⟩ := numeral
  obtain ⟨some, all, _⟩ := digits_iff.mp written
  have other : ∀ c ∈ digits, isBlank c = false := fun c member =>
    not_isBlank_of_isDigit (all c member)
  have head := List.head?_eq_some_head some
  have last := List.getLast?_eq_some_getLast some
  have lastOther := other _ (List.getLast_mem some)
  rcases plus with rfl | rfl
  · exact ⟨⟨_, head, other _ (List.head_mem some)⟩, _, last, lastOther⟩
  · refine ⟨⟨'+', rfl, by decide⟩, _, ?_, lastOther⟩
    rw [List.getLast?_cons, last, Option.getD_some]

theorem spells_iff {text : List Char} {n : Nat} : Spells text n ↔ Numeral (trim text) n := by
  constructor
  · rintro ⟨left, numeral, right, rfl, before, after, written⟩
    rw [trim_of_bare (bare_of_numeral written) before after]
    exact written
  · intro written
    obtain ⟨left, right, same, before, after⟩ := trim_spec text
    exact ⟨left, _, right, same, before, after, written⟩

theorem unsigned?_trim_eq_some_iff {bound n : Nat} {text : List Char} :
    unsigned? bound (trim text) = some n ↔ Spells text n ∧ n ≤ bound := by
  rw [unsigned?_eq_some_iff, spells_iff]

-- No text spells two numbers.
theorem spells_unique {text : List Char} {m n : Nat} (first : Spells text m)
    (second : Spells text n) : m = n := by
  have read := unsigned?_trim_eq_some_iff.mpr ⟨first, Nat.le_max_left m n⟩
  have again := unsigned?_trim_eq_some_iff.mpr ⟨second, Nat.le_max_right m n⟩
  rw [again] at read
  exact (Option.some.inj read).symm

theorem spells_toString (n : Nat) : Spells (toString n).toList n := by
  refine ⟨[], (toString n).toList, [], by simp, by simp, by simp, _, .inl rfl, ?_⟩
  rw [Nat.toString_eq_repr, Nat.toList_repr]
  exact digits_toDigits n

theorem toString_inj {m n : Nat} (same : toString m = toString n) : m = n := by
  have first := spells_toString m
  rw [same] at first
  exact spells_unique first (spells_toString n)

end Balancing.Text
