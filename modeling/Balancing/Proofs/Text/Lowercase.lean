import Balancing.Text
import Mathlib

namespace Balancing.Text

-- Two characters that differ in the case of an ASCII letter at most.
def SameLetter (c d : Char) : Prop := c.toLower = d.toLower

variable {c d : Char} {cs ds : List Char}

theorem toLower_of_not_isAlpha (other : c.isAlpha = false) : c.toLower = c :=
  Char.toLower_eq_of_not_isUpper fun upper => by simp [Char.isAlpha, upper] at other

theorem sameLetter_cases (same : SameLetter c d) :
    c = d ∨ c.isAlpha = true ∧ d.isAlpha = true := by
  have alike : c.isAlpha = d.isAlpha := by
    rw [← Char.isLower_toLower_eq_isAlpha c, same, Char.isLower_toLower_eq_isAlpha]
  cases letter : c.isAlpha with
  | true => exact .inr ⟨rfl, alike.symm.trans letter⟩
  | false =>
    left
    calc c = c.toLower := (toLower_of_not_isAlpha letter).symm
      _ = d.toLower := same
      _ = d := toLower_of_not_isAlpha (alike.symm.trans letter)

theorem toNat_of_isAlpha (letter : c.isAlpha = true) :
    65 ≤ c.toNat ∧ c.toNat ≤ 90 ∨ 97 ≤ c.toNat ∧ c.toNat ≤ 122 := by
  simp only [Char.isAlpha, Char.isUpper, Char.isLower, Bool.or_eq_true, Bool.and_eq_true,
    decide_eq_true_eq, UInt32.le_iff_toNat_le] at letter
  exact letter

def isAscii (c : Char) : Bool := c.toNat < 128

theorem isAscii_of_isAlpha (letter : c.isAlpha = true) : isAscii c = true := by
  have low := toNat_of_isAlpha letter
  apply decide_eq_true
  omega

theorem toLower_of_not_isAscii (foreign : isAscii c = false) : c.toLower = c := by
  cases letter : c.isAlpha with
  | false => exact toLower_of_not_isAlpha letter
  | true =>
    rw [isAscii_of_isAlpha letter] at foreign
    cases foreign

theorem isAscii_toLower (c : Char) : isAscii c.toLower = isAscii c := by
  cases letter : c.isAlpha with
  | false => rw [toLower_of_not_isAlpha letter]
  | true =>
    have lower : c.toLower.isAlpha = true := (Char.isAlpha_toLower_eq_isAlpha c).trans letter
    exact (isAscii_of_isAlpha lower).trans (isAscii_of_isAlpha letter).symm

theorem lowerChar_of_isAscii (ascii : isAscii c = true) : lowerChar c = [c.toLower] := by
  unfold lowerChar
  exact if_pos (of_decide_eq_true ascii)

theorem ne_capitalSigma_of_isAscii (ascii : isAscii c = true) : c ≠ capitalSigma := by
  rintro rfl
  cases ascii

theorem not_isCaseIgnorable_of_isAlpha (letter : c.isAlpha = true) :
    isCaseIgnorable c = false := by
  have apart : ∀ range ∈ caseIgnorableRanges,
      range.2 < 65 ∨ 90 < range.1 ∧ range.2 < 97 ∨ 122 < range.1 := by decide +kernel
  have letters := toNat_of_isAlpha letter
  rw [← Bool.not_eq_true]
  intro ignorable
  obtain ⟨range, listed, inside⟩ := List.any_eq_true.mp ignorable
  have outside := apart range listed
  simp only [Bool.and_eq_true, decide_eq_true_eq] at inside
  omega

theorem isCased_congr (same : SameLetter c d) : isCased c = isCased d := by
  rcases sameLetter_cases same with rfl | ⟨letter, letter'⟩
  · rfl
  · rw [isCased_of_isAlpha c letter, isCased_of_isAlpha d letter']

theorem isCaseIgnorable_congr (same : SameLetter c d) : isCaseIgnorable c = isCaseIgnorable d := by
  rcases sameLetter_cases same with rfl | ⟨letter, letter'⟩
  · rfl
  · rw [not_isCaseIgnorable_of_isAlpha letter, not_isCaseIgnorable_of_isAlpha letter']

theorem lowerChar_congr (same : SameLetter c d) : lowerChar c = lowerChar d := by
  rcases sameLetter_cases same with rfl | ⟨letter, letter'⟩
  · rfl
  · rw [lowerChar_of_isAscii (isAscii_of_isAlpha letter),
      lowerChar_of_isAscii (isAscii_of_isAlpha letter'), same]

-- Whether a cased character comes next is the same for both.
theorem meetsCased_congr (same : List.Forall₂ SameLetter cs ds) :
    meetsCased cs = meetsCased ds := by
  induction same with
  | nil => rfl
  | @cons c d cs ds first rest ih =>
    unfold meetsCased at ih ⊢
    rw [List.dropWhile_cons, List.dropWhile_cons, isCaseIgnorable_congr first]
    cases isCaseIgnorable d with
    | true => exact ih
    | false => exact isCased_congr first

theorem lowerAfter_congr {before before' : List Char}
    (behind : List.Forall₂ SameLetter before before') (same : List.Forall₂ SameLetter cs ds) :
    lowerAfter before cs = lowerAfter before' ds := by
  induction same generalizing before before' with
  | nil => rfl
  | @cons c d cs ds first rest ih =>
    rw [lowerAfter, lowerAfter, ih (.cons first behind), meetsCased_congr behind,
      meetsCased_congr rest, lowerChar_congr first]
    rcases sameLetter_cases first with rfl | ⟨letter, letter'⟩
    · rfl
    · rw [if_neg (ne_capitalSigma_of_isAscii (isAscii_of_isAlpha letter)),
        if_neg (ne_capitalSigma_of_isAscii (isAscii_of_isAlpha letter'))]

theorem lowercase_eq_of_sameAscii {s t : String} (same : sameAscii s t = true) :
    lowercase s = lowercase t := by
  have mapped : s.toList.map Char.toLower = t.toList.map Char.toLower := of_decide_eq_true same
  rw [← List.forall₂_eq_eq_eq, List.forall₂_map_left_iff, List.forall₂_map_right_iff] at mapped
  have letters : List.Forall₂ SameLetter s.toList t.toList := mapped
  rw [lowercase, lowercase, lowerAfter_congr .nil letters]

-- Lowering changes the letter if it is one of ASCII only.
def isSettled (c : Char) : Bool := isAscii c || (c ≠ capitalSigma && lowerChar c = [c])

def settled (s : String) : Bool := s.toList.all isSettled

def plain (s : String) : Bool := s.toList.all fun c => isAscii c && c.toLower != 'k'

theorem lowerAfter_of_settled (settled : ∀ c ∈ cs, isSettled c = true) (before : List Char) :
    lowerAfter before cs = cs.map Char.toLower := by
  induction cs generalizing before with
  | nil => rfl
  | cons c cs ih =>
    obtain ⟨first, rest⟩ := List.forall_mem_cons.mp settled
    have low : c ≠ capitalSigma ∧ lowerChar c = [c.toLower] := by
      cases ascii : isAscii c with
      | true => exact ⟨ne_capitalSigma_of_isAscii ascii, lowerChar_of_isAscii ascii⟩
      | false =>
        simp only [isSettled, ascii, Bool.false_or, Bool.and_eq_true, decide_eq_true_eq] at first
        rw [toLower_of_not_isAscii ascii]
        exact first
    rw [lowerAfter, ih rest, if_neg low.1, low.2]
    rfl

theorem lowercase_of_settled {s : String} (all : settled s = true) :
    lowercase s = String.ofList (s.toList.map Char.toLower) := by
  rw [lowercase, lowerAfter_of_settled (List.all_eq_true.mp all)]

theorem sameAscii_iff_of_settled {s t : String} (all : settled s = true)
    (all' : settled t = true) : sameAscii s t = true ↔ lowercase s = lowercase t := by
  rw [lowercase_of_settled all, lowercase_of_settled all', String.ofList_inj, sameAscii,
    decide_eq_true_eq]

-- Runs that end in ASCII start there, but for the Kelvin sign.
theorem lowerRuns_foreign : ∀ run ∈ lowerRuns, run.2.1 < 128 ∨
    run = (0x212A, 0x212A, 1, -8383) ∨
    128 ≤ run.1 + run.2.2.2 ∧ (run.2.1 + run.2.2.2 < 0xD800 ∨
      0xE000 ≤ run.1 + run.2.2.2 ∧ run.2.1 + run.2.2.2 < 0x110000) := by
  decide +kernel

-- A foreign letter has a foreign one in its lower-case form, or it is the Kelvin sign.
theorem lowerChar_foreign (foreign : isAscii c = false) :
    ∃ d ∈ lowerChar c, isAscii d = false ∨ d = 'k' := by
  have high : ¬c.toNat < 128 := of_decide_eq_false foreign
  unfold lowerChar
  dsimp only
  rw [if_neg high]
  split
  · exact ⟨Char.ofNat 0x307, by simp, .inl (by decide)⟩
  · split
    · rename_i first last step shift found
      have listed := List.mem_of_find?_eq_some found
      have inside := List.find?_some found
      simp only [Bool.and_eq_true, decide_eq_true_eq] at inside
      refine ⟨_, List.mem_singleton_self _, ?_⟩
      rcases lowerRuns_foreign _ listed with low | kelvin | far
      · have low : last < 128 := low
        omega
      · right
        cases kelvin
        have sign : c.toNat = 0x212A := by omega
        rw [sign]
        rfl
      · left
        have far : 128 ≤ first + shift ∧ (last + shift < 0xD800 ∨
          0xE000 ≤ first + shift ∧ last + shift < 0x110000) := far
        have valid : ((c.toNat : Int) + shift).toNat.isValidChar := by
          unfold Nat.isValidChar
          omega
        rw [isAscii, Char.toNat_ofNat, if_pos valid]
        exact decide_eq_false (by omega)
    · exact ⟨c, List.mem_singleton_self c, .inl foreign⟩

theorem lowerAfter_foreign (foreign : isAscii c = false) (member : c ∈ cs) (before : List Char) :
    ∃ d ∈ lowerAfter before cs, isAscii d = false ∨ d = 'k' := by
  induction cs generalizing before with
  | nil => cases member
  | cons first cs ih =>
    rw [lowerAfter]
    rcases List.mem_cons.mp member with rfl | later
    · have found : ∃ d ∈ (if c = capitalSigma then
          [if meetsCased before && !meetsCased cs then finalSigma else smallSigma]
          else lowerChar c), isAscii d = false ∨ d = 'k' := by
        split
        · refine ⟨_, List.mem_singleton_self _, .inl ?_⟩
          split <;> rfl
        · exact lowerChar_foreign foreign
      obtain ⟨d, low, either⟩ := found
      exact ⟨d, List.mem_append_left _ low, either⟩
    · obtain ⟨d, low, either⟩ := ih later (first :: before)
      exact ⟨d, List.mem_append_right _ low, either⟩

theorem settled_of_isAscii {s : String} (ascii : ∀ c ∈ s.toList, isAscii c = true) :
    settled s = true :=
  List.all_eq_true.mpr fun c member => Bool.or_eq_true_iff.mpr (.inl (ascii c member))

-- A text in ASCII without the letter k shares its lower-case form with texts in ASCII only.
theorem sameAscii_iff_of_plain {s t : String} (all : plain t = true) :
    sameAscii s t = true ↔ lowercase s = lowercase t := by
  have each : ∀ c ∈ t.toList, isAscii c = true ∧ c.toLower ≠ 'k' := by
    intro c member
    simpa using List.all_eq_true.mp all c member
  have settled' : settled t = true := settled_of_isAscii fun c member => (each c member).1
  refine ⟨lowercase_eq_of_sameAscii, fun same => ?_⟩
  refine (sameAscii_iff_of_settled (settled_of_isAscii fun c member => ?_) settled').mpr same
  rw [← Bool.not_eq_false]
  intro foreign
  obtain ⟨d, low, either⟩ := lowerAfter_foreign foreign member []
  rw [lowercase_of_settled settled', lowercase, String.ofList_inj] at same
  rw [same] at low
  obtain ⟨e, there, rfl⟩ := List.mem_map.mp low
  obtain ⟨ascii, other⟩ := each e there
  rw [isAscii_toLower, ascii] at either
  rcases either with foreign | letter
  · cases foreign
  · exact other letter

end Balancing.Text
