import Balancing.Config.Decode
import Balancing.Config.Encode
import Balancing.Proofs.Text.Bytes
import Balancing.Proofs.Text.Numerals
import Mathlib.Data.List.Nodup

namespace Balancing

namespace Policy

-- What a number must be for a rule to be about it.
def IsCode (n : Nat) : Prop := 100 ≤ n ∧ n ≤ 599

def Spells (key : String) (n : Nat) : Prop := Text.Spells key.toList n

inductive Offends (key : String) : PolicyError → Prop where
  -- a number beyond 16 bits counts as none
  | notACode (none : ∀ n, Spells key n → 65535 < n) : Offends key (.notACode key)
  | outOfRange {n : Nat} (spelled : Spells key n) (fits : n ≤ 65535) (beyond : ¬IsCode n) :
    Offends key (.outOfRange n)

theorem toNat_ofNat_of_isCode {n : Nat} (code : IsCode n) : (UInt16.ofNat n).toNat = n :=
  UInt16.toNat_ofNat_of_lt' (Nat.lt_of_le_of_lt code.2 (by decide))

theorem code_eq_ok_iff {key : String} {status : UInt16} :
    code key = .ok status ↔ Spells key status.toNat ∧ IsCode status.toNat := by
  have fits : status.toNat ≤ 65535 := Nat.le_of_lt_succ status.toNat_lt
  unfold code
  split
  · rename_i unread
    have other : ¬Spells key status.toNat := fun spelled => by
      rw [Text.unsigned?_trim_eq_some_iff.mpr ⟨spelled, fits⟩] at unread
      cases unread
    simp [other]
  · rename_i n read
    obtain ⟨spelled, _⟩ := Text.unsigned?_trim_eq_some_iff.mp read
    split
    · rename_i range
      rw [Except.ok.injEq]
      constructor
      · rintro rfl
        rw [toNat_ofNat_of_isCode range]
        exact ⟨spelled, range⟩
      · rintro ⟨again, _⟩
        rw [Text.spells_unique spelled again, UInt16.ofNat_toNat]
    · rename_i beyond
      simp only [reduceCtorEq, false_iff]
      rintro ⟨again, range⟩
      rw [Text.spells_unique again spelled] at range
      exact beyond range

theorem code_eq_error_iff {key : String} {e : PolicyError} :
    code key = .error e ↔ Offends key e := by
  unfold code
  split
  · rename_i unread
    have none : ∀ n, Spells key n → 65535 < n := fun n spelled => by
      by_contra fits
      rw [Text.unsigned?_trim_eq_some_iff.mpr ⟨spelled, Nat.not_lt.mp fits⟩] at unread
      cases unread
    rw [Except.error.injEq]
    constructor
    · rintro rfl
      exact .notACode none
    · intro offends
      cases offends with
      | notACode => rfl
      | outOfRange spelled fits => exact absurd (none _ spelled) (Nat.not_lt.mpr fits)
  · rename_i n read
    obtain ⟨spelled, fits⟩ := Text.unsigned?_trim_eq_some_iff.mp read
    split
    · rename_i range
      simp only [reduceCtorEq, false_iff]
      intro offends
      cases offends with
      | notACode none => exact absurd (none n spelled) (Nat.not_lt.mpr fits)
      | outOfRange again _ beyond =>
        rw [Text.spells_unique again spelled] at beyond
        exact beyond range
    · rename_i beyond
      rw [Except.error.injEq]
      constructor
      · rintro rfl
        exact .outOfRange spelled fits beyond
      · intro offends
        cases offends with
        | notACode none => exact absurd (none n spelled) (Nat.not_lt.mpr fits)
        | outOfRange again => rw [Text.spells_unique again spelled]

-- The entries still to be read, after those that have given `p`.
def read (p : Policy) (entries : List (String × Bool)) : Except PolicyError Policy :=
  entries.foldlM (fun p (key, always) => return p.withRule (← code key) always) p

theorem ofWritten_eq (raw : SortedMap String Bool) : ofWritten raw = read empty raw.entries := rfl

theorem read_cons (p : Policy) (key : String) (always : Bool) (rest : List (String × Bool)) :
    read p ((key, always) :: rest) = match code key with
      | .ok status => read (p.withRule status always) rest
      | .error e => .error e := by
  unfold read
  rw [List.foldlM_cons]
  dsimp only
  cases code key <;> rfl

theorem rule_withRule (p : Policy) (status other : UInt16) (always : Bool) :
    (p.withRule status always).rule other = if other = status then some always else p.rule other :=
  SortedMap.get?_insert p.rules status other always

-- The first key that offends ends the reading.
theorem read_eq_error_iff {p : Policy} {entries : List (String × Bool)} {e : PolicyError} :
    read p entries = .error e ↔ ∃ before entry after, entries = before ++ entry :: after ∧
      (∀ earlier ∈ before, ∃ status, code earlier.1 = .ok status) ∧ code entry.1 = .error e := by
  induction entries generalizing p with
  | nil =>
    constructor
    · intro failed
      cases failed
    · rintro ⟨before, entry, after, split, _⟩
      cases before <;> cases split
  | cons entry rest ih =>
    obtain ⟨key, always⟩ := entry
    rw [read_cons]
    cases coded : code key with
    | error e' =>
      dsimp only
      constructor
      · intro same
        cases same
        exact ⟨[], (key, always), rest, rfl, by simp, coded⟩
      · rintro ⟨before, entry, after, split, earlier, failed⟩
        cases before with
        | nil =>
          cases split
          rw [coded] at failed
          cases failed
          rfl
        | cons first before =>
          cases split
          obtain ⟨status, accepted⟩ := earlier _ List.mem_cons_self
          rw [coded] at accepted
          cases accepted
    | ok status =>
      dsimp only
      rw [ih]
      constructor
      · rintro ⟨before, entry, after, rfl, earlier, failed⟩
        refine ⟨(key, always) :: before, entry, after, rfl, ?_, failed⟩
        exact List.forall_mem_cons.mpr ⟨⟨status, coded⟩, earlier⟩
      · rintro ⟨before, entry, after, split, earlier, failed⟩
        cases before with
        | nil =>
          cases split
          rw [coded] at failed
          cases failed
        | cons first before =>
          cases split
          exact ⟨before, entry, after, rfl, (List.forall_mem_cons.mp earlier).2, failed⟩

-- The last entry for a status decides; without one the rule is as it was.
theorem rule_read {p q : Policy} {entries : List (String × Bool)}
    (accepted : read p entries = .ok q) (status : UInt16) :
    (∃ before key always after, entries = before ++ (key, always) :: after ∧
      code key = .ok status ∧ (∀ later ∈ after, code later.1 ≠ .ok status) ∧
      q.rule status = some always) ∨
    (∀ entry ∈ entries, code entry.1 ≠ .ok status) ∧ q.rule status = p.rule status := by
  induction entries generalizing p with
  | nil =>
    cases accepted
    exact .inr ⟨by simp, rfl⟩
  | cons entry rest ih =>
    obtain ⟨key, always⟩ := entry
    rw [read_cons] at accepted
    cases coded : code key with
    | error e =>
      rw [coded] at accepted
      cases accepted
    | ok first =>
      rw [coded] at accepted
      rcases ih accepted with ⟨before, key', always', after, rfl, last⟩ | ⟨none, kept⟩
      · exact .inl ⟨(key, always) :: before, key', always', after, rfl, last⟩
      · rw [rule_withRule] at kept
        by_cases same : status = first
        · subst same
          rw [if_pos rfl] at kept
          exact .inl ⟨[], key, always, rest, rfl, coded, none, kept⟩
        · rw [if_neg same] at kept
          refine .inr ⟨List.forall_mem_cons.mpr ⟨?_, none⟩, kept⟩
          rw [coded]
          intro equal
          exact same (Except.ok.inj equal).symm

variable {raw : SortedMap String Bool} {p q : Policy}

theorem mem_of_split {before after : List (String × Bool)} {entry : String × Bool}
    (split : raw.entries = before ++ entry :: after) : entry ∈ raw.entries := by
  rw [split]
  exact List.mem_append_right before List.mem_cons_self

-- Of two entries the one with the lesser key comes first.
theorem bytes_lt_of_split {before after : List (String × Bool)} {entry : String × Bool}
    (split : raw.entries = before ++ entry :: after) :
    (∀ earlier ∈ before, Text.bytes earlier.1 < Text.bytes entry.1) ∧
      ∀ later ∈ after, Text.bytes entry.1 < Text.bytes later.1 := by
  have ascending := raw.ascending
  rw [split, List.pairwise_append, List.pairwise_cons] at ascending
  obtain ⟨_, ⟨behind, _⟩, across⟩ := ascending
  simp only [Text.bytes_lt_iff]
  exact ⟨fun earlier member => across earlier member entry List.mem_cons_self, behind⟩

theorem bytes_irrefl (key : String) : ¬Text.bytes key < Text.bytes key := List.lt_irrefl _

theorem mem_before_iff {before after : List (String × Bool)} {entry other : String × Bool}
    (split : raw.entries = before ++ entry :: after) :
    other ∈ before ↔ other ∈ raw.entries ∧ Text.bytes other.1 < Text.bytes entry.1 := by
  obtain ⟨ahead, behind⟩ := bytes_lt_of_split split
  rw [split, List.mem_append, List.mem_cons]
  constructor
  · intro first
    exact ⟨.inl first, ahead other first⟩
  · rintro ⟨first | rfl | later, less⟩
    · exact first
    · exact absurd less (bytes_irrefl _)
    · exact absurd less (List.lt_asymm (behind other later))

theorem mem_after_iff {before after : List (String × Bool)} {entry other : String × Bool}
    (split : raw.entries = before ++ entry :: after) :
    other ∈ after ↔ other ∈ raw.entries ∧ Text.bytes entry.1 < Text.bytes other.1 := by
  obtain ⟨ahead, behind⟩ := bytes_lt_of_split split
  rw [split, List.mem_append, List.mem_cons]
  constructor
  · intro later
    exact ⟨.inr (.inr later), behind other later⟩
  · rintro ⟨first | rfl | later, less⟩
    · exact absurd less (List.lt_asymm (ahead other first))
    · exact absurd less (bytes_irrefl _)
    · exact later

theorem forall_mem_keys {P : String → Prop} :
    (∀ key ∈ raw.keys, P key) ↔ ∀ entry ∈ raw.entries, P entry.1 := by
  simp only [SortedMap.keys, List.forall_mem_map]

theorem exists_code_iff {key : String} :
    (∃ status, code key = .ok status) ↔ ∃ n, Spells key n ∧ IsCode n := by
  constructor
  · rintro ⟨status, coded⟩
    exact ⟨status.toNat, code_eq_ok_iff.mp coded⟩
  · rintro ⟨n, spelled, range⟩
    refine ⟨UInt16.ofNat n, code_eq_ok_iff.mpr ?_⟩
    rw [toNat_ofNat_of_isCode range]
    exact ⟨spelled, range⟩

theorem read_ok_iff {entries : List (String × Bool)} : (∃ q, read p entries = .ok q) ↔
    ∀ entry ∈ entries, ∃ n, Spells entry.1 n ∧ IsCode n := by
  simp only [← exists_code_iff]
  induction entries generalizing p with
  | nil => simp [read, pure, Except.pure]
  | cons entry rest ih =>
    obtain ⟨key, always⟩ := entry
    rw [read_cons, List.forall_mem_cons]
    cases coded : code key with
    | error e => simp
    | ok status => simp [ih]

theorem ofWritten_ok_iff : (∃ p, ofWritten raw = .ok p) ↔
    ∀ key ∈ raw.keys, ∃ n, Spells key n ∧ IsCode n := by
  rw [forall_mem_keys]
  exact read_ok_iff

theorem ofWritten_error_iff {e : PolicyError} : ofWritten raw = .error e ↔
    ∃ key ∈ raw.keys, Offends key e ∧ ∀ earlier ∈ raw.keys,
      Text.bytes earlier < Text.bytes key → ∃ n, Spells earlier n ∧ IsCode n := by
  rw [ofWritten_eq, read_eq_error_iff]
  simp only [exists_code_iff, code_eq_error_iff, forall_mem_keys]
  constructor
  · rintro ⟨before, ⟨key, always⟩, after, split, accepted, offends⟩
    refine ⟨key, List.mem_map_of_mem (mem_of_split split), offends, fun earlier member less => ?_⟩
    exact accepted earlier ((mem_before_iff split).mpr ⟨member, less⟩)
  · rintro ⟨key, listed, offends, accepted⟩
    obtain ⟨entry, member, rfl⟩ := List.mem_map.mp listed
    obtain ⟨before, after, split⟩ := List.append_of_mem member
    refine ⟨before, entry, after, split, fun earlier first => ?_, offends⟩
    obtain ⟨member, less⟩ := (mem_before_iff split).mp first
    exact accepted earlier member less

-- Every key that has been read spells its code and nothing else.
theorem spells_iff_code (accepted : ofWritten raw = .ok p) {key : String} (listed : key ∈ raw.keys)
    {status : UInt16} : Spells key status.toNat ↔ code key = .ok status := by
  rw [code_eq_ok_iff, iff_self_and]
  intro spelled
  obtain ⟨n, again, range⟩ := ofWritten_ok_iff.mp ⟨p, accepted⟩ key listed
  rw [Text.spells_unique spelled again]
  exact range

theorem rule_eq_some_iff (accepted : ofWritten raw = .ok p) {status : UInt16} {always : Bool} :
    p.rule status = some always ↔ ∃ key, raw.get? key = some always ∧
      Spells key status.toNat ∧ ∀ later ∈ raw.keys, Text.bytes key < Text.bytes later →
        ¬Spells later status.toNat := by
  have listed {key : String} {always : Bool} (found : raw.get? key = some always) :
      key ∈ raw.keys := List.mem_map_of_mem (SortedMap.get?_eq_some_iff.mp found)
  rcases rule_read accepted status with
    ⟨before, key, decided, after, split, coded, last, rule⟩ | ⟨none, rule⟩
  · have found : raw.get? key = some decided := SortedMap.get?_eq_some_iff.mpr (mem_of_split split)
    have spelled := (spells_iff_code accepted (listed found)).mpr coded
    -- whatever comes behind the entry that decides spells another code
    have behind : ∀ later ∈ raw.keys, Text.bytes key < Text.bytes later →
        ¬Spells later status.toNat := by
      intro later member less again
      obtain ⟨entry, inside, rfl⟩ := List.mem_map.mp member
      rw [spells_iff_code accepted member] at again
      exact last entry ((mem_after_iff split).mpr ⟨inside, less⟩) again
    rw [rule, Option.some.injEq]
    constructor
    · rintro rfl
      exact ⟨key, found, spelled, behind⟩
    · rintro ⟨other, given, alike, final⟩
      have same : key = other := by
        by_contra ne
        by_cases less : key < other
        · exact behind other (listed given) (Text.bytes_lt_iff.mpr less) alike
        · exact final key (listed found)
            (Text.bytes_lt_iff.mpr (KeyOrder.connex ne less)) spelled
      rw [same, given] at found
      exact (Option.some.inj found).symm
  · have absent : p.rule status = Option.none := rule
    rw [absent]
    simp only [reduceCtorEq, false_iff]
    rintro ⟨key, found, spelled, _⟩
    exact none _ (SortedMap.get?_eq_some_iff.mp found)
      ((spells_iff_code accepted (listed found)).mp spelled)

theorem rule_eq_none_iff (accepted : ofWritten raw = .ok p) {status : UInt16} :
    p.rule status = none ↔ ∀ key ∈ raw.keys, ¬Spells key status.toNat := by
  rcases rule_read accepted status with
    ⟨before, key, decided, after, split, coded, last, rule⟩ | ⟨none, rule⟩
  · have listed : key ∈ raw.keys := List.mem_map_of_mem (mem_of_split split)
    rw [rule]
    simp only [reduceCtorEq, false_iff]
    intro none
    exact none key listed ((spells_iff_code accepted listed).mpr coded)
  · have absent : p.rule status = Option.none := rule
    simp only [absent, true_iff]
    intro key listed spelled
    obtain ⟨entry, member, rfl⟩ := List.mem_map.mp listed
    exact none entry member ((spells_iff_code accepted listed).mp spelled)

-- The entries of the written table, in the order of the codes.
def texts (p : Policy) : List (String × Bool) :=
  p.rules.entries.map fun entry => (toString entry.1.toNat, entry.2)

theorem written_eq (p : Policy) : p.written = .ofList p.texts := rfl

theorem nodup_texts (p : Policy) : (p.texts.map Prod.fst).Nodup := by
  have same : p.texts.map Prod.fst = p.rules.keys.map fun status => toString status.toNat := by
    simp [texts, SortedMap.keys, Function.comp_def]
  rw [same]
  refine List.Nodup.map (fun status other equal => ?_) p.rules.nodup_keys
  exact UInt16.toNat_inj.mp (Text.toString_inj equal)

theorem get?_written {key : String} {always : Bool} : p.written.get? key = some always ↔
    ∃ status, p.rule status = some always ∧ key = toString status.toNat := by
  rw [written_eq, SortedMap.get?_ofList p.nodup_texts, SortedMap.find?_eq_some_iff p.nodup_texts,
    texts, List.mem_map]
  constructor
  · rintro ⟨⟨status, decided⟩, member, same⟩
    cases same
    exact ⟨status, SortedMap.get?_eq_some_iff.mpr member, rfl⟩
  · rintro ⟨status, rule, rfl⟩
    exact ⟨(status, always), SortedMap.get?_eq_some_iff.mp rule, rfl⟩

theorem mem_keys_written {key : String} :
    key ∈ p.written.keys ↔ ∃ status ∈ p.rules.keys, key = toString status.toNat := by
  simp only [SortedMap.mem_keys_iff, Option.isSome_iff_exists, get?_written]
  constructor
  · rintro ⟨always, status, rule, same⟩
    exact ⟨status, ⟨always, rule⟩, same⟩
  · rintro ⟨status, ⟨always, rule⟩, same⟩
    exact ⟨always, status, rule, same⟩

theorem spells_written_iff {status other : UInt16} :
    Spells (toString status.toNat) other.toNat ↔ other = status := by
  constructor
  · intro spelled
    exact UInt16.toNat_inj.mp (Text.spells_unique spelled (Text.spells_toString status.toNat))
  · rintro rfl
    exact Text.spells_toString _

theorem ext_rule (same : ∀ status, p.rule status = q.rule status) : p = q := by
  cases p
  cases q
  exact congrArg Policy.mk (SortedMap.ext_get? same)

-- In what is written no two keys spell one code, so that none is overruled.
theorem ofWritten_written (codes : ∀ status ∈ p.rules.keys, IsCode status.toNat) :
    ofWritten p.written = .ok p := by
  obtain ⟨q, accepted⟩ : ∃ q, ofWritten p.written = .ok q := by
    refine ofWritten_ok_iff.mpr fun key listed => ?_
    obtain ⟨status, ruled, rfl⟩ := mem_keys_written.mp listed
    exact ⟨status.toNat, Text.spells_toString _, codes status ruled⟩
  have same : q = p := by
    refine ext_rule fun status => ?_
    cases rule : p.rule status with
    | none =>
      refine (rule_eq_none_iff accepted).mpr fun key listed spelled => ?_
      obtain ⟨other, ruled, rfl⟩ := mem_keys_written.mp listed
      obtain rfl := spells_written_iff.mp spelled
      have found : (p.rule status).isSome := SortedMap.mem_keys_iff.mp ruled
      rw [rule] at found
      cases found
    | some always =>
      refine (rule_eq_some_iff accepted).mpr ⟨toString status.toNat, ?_, ?_, ?_⟩
      · exact get?_written.mpr ⟨status, rule, rfl⟩
      · exact Text.spells_toString _
      · intro later listed less spelled
        obtain ⟨other, _, rfl⟩ := mem_keys_written.mp listed
        rw [spells_written_iff.mp spelled] at less
        exact bytes_irrefl _ less
  rw [accepted, same]

theorem isCode_of_accepted (accepted : ofWritten raw = .ok p) :
    ∀ status ∈ p.rules.keys, IsCode status.toNat := by
  intro status ruled
  obtain ⟨always, rule⟩ := Option.isSome_iff_exists.mp (SortedMap.mem_keys_iff.mp ruled)
  obtain ⟨key, found, spelled, _⟩ := (rule_eq_some_iff accepted).mp rule
  have listed : key ∈ raw.keys := SortedMap.mem_keys_iff.mpr (by rw [found]; rfl)
  exact (code_eq_ok_iff.mp ((spells_iff_code accepted listed).mp spelled)).2

theorem foldlM_toValue (entries : List (String × Bool)) (start : SortedMap String Bool) :
    (entries.map fun (name, b) => (name, Value.boolean b)).foldlM
      (fun m (name, v) => return m.insert name (← Decode.boolean v)) start
      = (.ok (entries.foldl (fun m e => m.insert e.1 e.2) start) : Decode.Decoded _) := by
  induction entries generalizing start with
  | nil => rfl
  | cons entry rest ih => exact ih (start.insert entry.1 entry.2)

theorem map_toValue (m : SortedMap String Bool) :
    Decode.map Decode.boolean (m.toValue .boolean) = .ok m := by
  refine (foldlM_toValue m.entries .empty).trans ?_
  exact congrArg Except.ok m.ofList_entries

theorem decode_toValue (codes : ∀ status ∈ p.rules.keys, IsCode status.toNat) :
    Decode.policy p.toValue = .ok p := by
  unfold Decode.policy toValue
  rw [map_toValue]
  dsimp only [bind, Except.bind]
  rw [ofWritten_written codes]

theorem rules_as_written (raw : SortedMap String Bool) :
    ((∃ p, ofWritten raw = .ok p) ↔ ∀ key ∈ raw.keys, ∃ n, Spells key n ∧ IsCode n) ∧
    (∀ e, ofWritten raw = .error e ↔ ∃ key ∈ raw.keys, Offends key e ∧
      ∀ earlier ∈ raw.keys, Text.bytes earlier < Text.bytes key →
        ∃ n, Spells earlier n ∧ IsCode n) ∧
    (∀ p, ofWritten raw = .ok p → ∀ status : UInt16,
      (∀ always, p.rule status = some always ↔ ∃ key, raw.get? key = some always ∧
        Spells key status.toNat ∧ ∀ later ∈ raw.keys, Text.bytes key < Text.bytes later →
          ¬Spells later status.toNat) ∧
      (p.rule status = none ↔ ∀ key ∈ raw.keys, ¬Spells key status.toNat)) ∧
    (∀ p : Policy, (∀ status ∈ p.rules.keys, IsCode status.toNat) →
      ofWritten p.written = .ok p ∧ Decode.policy p.toValue = .ok p) ∧
    ∀ other p q, ofWritten raw = .ok p → ofWritten other = .ok q →
      (p = q ↔ p.written = q.written) := by
  refine ⟨ofWritten_ok_iff, fun e => ofWritten_error_iff, fun p accepted status => ?_,
    fun p codes => ⟨ofWritten_written codes, decode_toValue codes⟩,
    fun other p q first second => ?_⟩
  · exact ⟨fun always => rule_eq_some_iff accepted, rule_eq_none_iff accepted⟩
  · constructor
    · intro same
      rw [same]
    · intro same
      have read := ofWritten_written (isCode_of_accepted first)
      rw [same, ofWritten_written (isCode_of_accepted second)] at read
      exact (Except.ok.inj read).symm

-- Three keys for one code, of which the last counts, and two bad ones, of which the first does.
theorem four_keys_for_two_codes :
    let raw : SortedMap String Bool :=
      .ofList [("503", false), ("+502", true), ("0503", true), (" 503 ", true)]
    let bad := (raw.insert "6OO" true).insert "099" true
    let p := (empty.withRule 503 false).withRule 502 true
    ofWritten raw = .ok p ∧
    (∃ key, raw.get? key = some false ∧ Spells key 503) ∧ (∀ key ∈ raw.keys, ¬Spells key 599) ∧
    p.written.entries = [("502", true), ("503", false)] ∧ ofWritten p.written = .ok p ∧
    (∃ key ∈ bad.keys, Offends key (.outOfRange 99)) := by
  intro raw bad p
  have facts : ofWritten raw = .ok p ∧ p.rule 503 = some false ∧ p.rule 599 = none ∧
      p.written.entries = [("502", true), ("503", false)] ∧
      ofWritten bad = .error (.outOfRange 99) := by
    decide +kernel +revert
  obtain ⟨accepted, decided, unruled, texts, refused⟩ := facts
  obtain ⟨_, _, rules, back, _⟩ := rules_as_written raw
  obtain ⟨key, given, spelled, _⟩ := ((rules p accepted 503).1 false).mp decided
  obtain ⟨first, listed, offends, _⟩ := ((rules_as_written bad).2.1 _).mp refused
  exact ⟨accepted, ⟨key, given, spelled⟩, (rules p accepted 599).2.mp unruled, texts,
    (back p (isCode_of_accepted accepted)).1, first, listed, offends⟩

end Policy

end Balancing
