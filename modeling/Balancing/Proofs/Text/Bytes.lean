import Balancing.SortedMap
import Mathlib.Data.List.Basic
import Mathlib.Tactic.SplitIfs

namespace Balancing.Text

def bytes (s : String) : List UInt8 := s.toUTF8.data.toList

theorem bytes_eq (s : String) : bytes s = s.toList.flatMap String.utf8EncodeChar := by
  have encoded : s.toUTF8 = s.toList.utf8Encode := by simp
  rw [bytes, encoded, List.utf8Encode, List.toList_data_toByteArray]

-- What follows does not matter, since neither encoding begins with the other.
theorem encode_lt {c d : Char} (lt : c < d) (x y : List UInt8) :
    String.utf8EncodeChar c ++ x < String.utf8EncodeChar d ++ y := by
  have lt : c.val.toNat < d.val.toNat := lt
  have bound : d.val.toNat < 0x110000 := by
    have valid := d.valid
    unfold UInt32.isValidChar Nat.isValidChar at valid
    omega
  unfold String.utf8EncodeChar
  dsimp only
  generalize c.val.toNat = v at lt
  generalize d.val.toNat = w at lt bound
  split_ifs
  all_goals
    simp (disch := omega) only [List.cons_append, List.nil_append, List.cons_lt_cons_iff,
      UInt8.lt_iff_toNat_lt, ← UInt8.toNat_inj, UInt8.toNat_ofNat', Nat.mod_eq_of_lt]
    omega

theorem encodings_lt {l m : List Char} (lt : l < m) :
    l.flatMap String.utf8EncodeChar < m.flatMap String.utf8EncodeChar := by
  induction l generalizing m with
  | nil =>
    cases m with
    | nil => cases lt
    | cons d m =>
      rw [List.flatMap_nil, List.flatMap_cons]
      cases encoded : String.utf8EncodeChar d with
      | nil => exact absurd encoded String.utf8EncodeChar_ne_nil
      | cons first rest => exact .nil
  | cons c l ih =>
    cases m with
    | nil => cases lt
    | cons d m =>
      rw [List.flatMap_cons, List.flatMap_cons]
      rcases List.cons_lt_cons_iff.mp lt with first | ⟨rfl, rest⟩
      · exact encode_lt first _ _
      · exact List.append_left_lt (ih rest)

theorem bytes_lt_iff {s t : String} : bytes s < bytes t ↔ s < t := by
  have keeps {s t : String} (lt : s < t) : bytes s < bytes t := by
    rw [bytes_eq, bytes_eq]
    exact encodings_lt lt
  constructor
  · intro lt
    by_contra not
    by_cases same : s = t
    · rw [same] at lt
      exact List.lt_irrefl _ lt
    · exact List.lt_asymm lt (keeps (KeyOrder.connex same not))
  · exact keeps

end Balancing.Text
