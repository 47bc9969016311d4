import Balancing.Uri.Parser
import Balancing.Proofs.Text.Lowercase

namespace Balancing

section

variable {α : Type} {p : α → Bool} {xs xs' ys ys' : List α} {a a' : α}

theorem takeWhile_cut (ys : List α) (all : ∀ x ∈ xs, p x = true) (stops : p a = false) :
    (xs ++ a :: ys).takeWhile p = xs := by
  rw [List.takeWhile_append_of_pos all, List.takeWhile_cons_of_neg (by simp [stops]),
    List.append_nil]

theorem dropWhile_cut (ys : List α) (all : ∀ x ∈ xs, p x = true) (stops : p a = false) :
    (xs ++ a :: ys).dropWhile p = a :: ys := by
  rw [List.dropWhile_append_of_pos all, List.dropWhile_cons_of_neg (by simp [stops])]

-- There is one way only to cut a list at the first element that fails.
theorem cut_unique (all : ∀ x ∈ xs, p x = true) (stops : p a = false)
    (all' : ∀ x ∈ xs', p x = true) (stops' : p a' = false)
    (same : xs ++ a :: ys = xs' ++ a' :: ys') : xs = xs' ∧ a :: ys = a' :: ys' := by
  constructor
  · rw [← takeWhile_cut ys all stops, same, takeWhile_cut ys' all' stops']
  · rw [← dropWhile_cut ys all stops, same, dropWhile_cut ys' all' stops']

end

namespace Uri

-- The two known schemes may be written in any case.
def schemeNamed (name : List Char) : String :=
  if name.map Char.toLower = "http".toList then "http"
  else if name.map Char.toLower = "https".toList then "https"
  else String.ofList name

structure IsName (name : List Char) : Prop where
  chars : ∀ c ∈ name, isSchemeChar c = true
  short : name.length ≤ longestScheme

theorem startsWithFolded_iff {word cs : List Char} :
    startsWithFolded word cs = true ↔
      ∃ first rest, cs = first ++ rest ∧ first.map Char.toLower = word := by
  fun_induction startsWithFolded word cs with
  | case1 cs => exact iff_of_true rfl ⟨[], cs, rfl, rfl⟩
  | case2 word nonempty =>
    refine iff_of_false Bool.false_ne_true ?_
    rintro ⟨first, rest, cut, folded⟩
    obtain ⟨rfl, _⟩ := List.append_eq_nil_iff.mp cut.symm
    exact nonempty folded.symm
  | case3 w ws c cs ih =>
    rw [Bool.and_eq_true, decide_eq_true_eq, ih]
    constructor
    · rintro ⟨letter, first, rest, rfl, rfl⟩
      exact ⟨c :: first, rest, rfl, by rw [List.map_cons, letter]⟩
    · rintro ⟨first, rest, cut, folded⟩
      cases first with
      | nil => cases folded
      | cons d first =>
        obtain ⟨rfl, rfl⟩ := List.cons.inj cut
        obtain ⟨letter, rfl⟩ := List.cons.inj folded
        exact ⟨letter, first, rest, rfl, rfl⟩

theorem isAlpha_of_isLower_toLower {c : Char} (lower : c.toLower.isLower = true) :
    c.isAlpha = true := by
  rwa [Char.isLower_toLower_eq_isAlpha] at lower

theorem eq_of_toLower_eq {c d : Char} (same : c.toLower = d) (other : d.isLower = false) :
    c = d := by
  rw [← same]
  refine (Text.toLower_of_not_isAlpha ?_).symm
  rw [← Char.isLower_toLower_eq_isAlpha, same, other]

theorem eq_of_map_toLower {mark cs : List Char} (others : ∀ c ∈ mark, c.isLower = false)
    (same : cs.map Char.toLower = mark) : cs = mark := by
  subst same
  refine List.ext_getElem (List.length_map _).symm fun i inside inside' => ?_
  refine eq_of_toLower_eq (List.getElem_map _).symm (others _ (List.getElem_mem inside'))

-- Letters in any case and the mark after them.
theorem named_of_folded {word cs : List Char} (letters : ∀ c ∈ word, c.isLower = true)
    (starts : startsWithFolded (word ++ "://".toList) cs = true) :
    ∃ name rest, cs = name ++ "://".toList ++ rest ∧ name.map Char.toLower = word ∧
      ∀ c ∈ name, isSchemeChar c = true := by
  obtain ⟨first, rest, rfl, folded⟩ := startsWithFolded_iff.mp starts
  obtain ⟨name, mark, rfl, named, marked⟩ := List.map_eq_append_iff.mp folded
  have exact_mark : mark = "://".toList := eq_of_map_toLower (by simp) marked
  refine ⟨name, rest, by rw [exact_mark], named, fun c member => ?_⟩
  have lower := letters c.toLower (named ▸ List.mem_map_of_mem member)
  rw [isSchemeChar, Char.isAlphanum, isAlpha_of_isLower_toLower lower]
  rfl

theorem schemeMark : "://".toList = [':', '/', '/'] := by decide

theorem isLower_http : ∀ c ∈ "http".toList, c.isLower = true := by simp

theorem isLower_https : ∀ c ∈ "https".toList, c.isLower = true := by simp

-- A name and the mark after it are found where they end.
theorem name_unique {name name' rest rest' : List Char}
    (chars : ∀ c ∈ name, isSchemeChar c = true) (chars' : ∀ c ∈ name', isSchemeChar c = true)
    (same : name ++ "://".toList ++ rest = name' ++ "://".toList ++ rest') :
    name = name' ∧ rest = rest' := by
  rw [schemeMark, List.append_assoc, List.append_assoc] at same
  have cut := cut_unique chars (by decide) chars' (by decide) same
  simpa using cut

theorem startsWithFolded_named {name rest word : List Char}
    (chars : ∀ c ∈ name, isSchemeChar c = true) (letters : ∀ c ∈ word, c.isLower = true) :
    startsWithFolded (word ++ "://".toList) (name ++ "://".toList ++ rest) = true ↔
      name.map Char.toLower = word := by
  constructor
  · intro starts
    obtain ⟨name', rest', cut, folded, chars'⟩ := named_of_folded letters starts
    rw [(name_unique chars chars' cut).1, folded]
  · intro folded
    refine startsWithFolded_iff.mpr ⟨name ++ "://".toList, rest, rfl, ?_⟩
    rw [List.map_append, folded]
    rfl

theorem splitScheme_named {name rest : List Char} (isName : IsName name) (nonempty : rest ≠ []) :
    splitScheme (name ++ "://".toList ++ rest) = some (some (schemeNamed name), rest) := by
  have http : startsWithFolded "http://".toList (name ++ "://".toList ++ rest) = true ↔ _ :=
    startsWithFolded_named isName.chars isLower_http
  have https : startsWithFolded "https://".toList (name ++ "://".toList ++ rest) = true ↔ _ :=
    startsWithFolded_named isName.chars isLower_https
  have length (word : List Char) (folded : name.map Char.toLower = word) :
      name.length = word.length := by
    rw [← folded, List.length_map]
  unfold splitScheme schemeNamed
  split
  · rename_i starts
    have named := http.mp starts
    rw [if_pos named, List.drop_left' (by rw [List.length_append, length _ named]; rfl)]
  · rename_i other
    rw [if_neg (mt http.mpr other)]
    split
    · rename_i starts
      have named := https.mp starts
      rw [if_pos named, List.drop_left' (by rw [List.length_append, length _ named]; rfl)]
    · rename_i other'
      rw [if_neg (mt https.mpr other')]
      rw [schemeMark, List.append_assoc]
      have colon : isSchemeChar ':' = false := by decide
      have taken := takeWhile_cut ('/' :: '/' :: rest) isName.chars colon
      have dropped := dropWhile_cut ('/' :: '/' :: rest) isName.chars colon
      simp only [List.cons_append, List.nil_append, taken, dropped]
      rw [if_neg (by simp [nonempty]), if_neg (Nat.not_lt.mpr isName.short)]

theorem named_of_splitScheme {cs rest : List Char} {scheme : String}
    (split : splitScheme cs = some (some scheme, rest)) :
    ∃ name, IsName name ∧ cs = name ++ "://".toList ++ rest ∧ scheme = schemeNamed name := by
  have known {word : List Char} (letters : ∀ c ∈ word, c.isLower = true) (few : word.length ≤ 64)
      (starts : startsWithFolded (word ++ "://".toList) cs = true) :
      ∃ name, IsName name ∧ cs = name ++ "://".toList ++ cs.drop (word.length + 3) ∧
        name.map Char.toLower = word := by
    obtain ⟨name, rest, rfl, folded, chars⟩ := named_of_folded letters starts
    have length : name.length = word.length := by rw [← folded, List.length_map]
    refine ⟨name, ⟨chars, length ▸ few⟩, ?_, folded⟩
    rw [List.drop_left' (by rw [List.length_append, length]; rfl)]
  unfold splitScheme at split
  split at split
  · rename_i starts
    obtain ⟨name, isName, cut, folded⟩ := known isLower_http (by simp) starts
    cases split
    exact ⟨name, isName, cut, by rw [schemeNamed, if_pos folded]⟩
  · rename_i other
    split at split
    · rename_i starts
      obtain ⟨name, isName, cut, folded⟩ := known isLower_https (by simp) starts
      cases split
      refine ⟨name, isName, cut, ?_⟩
      rw [schemeNamed, folded, if_neg (by simp), if_pos rfl]
    · rename_i other'
      have parts := List.takeWhile_append_dropWhile (p := isSchemeChar) (l := cs)
      have chars : ∀ c ∈ cs.takeWhile isSchemeChar, isSchemeChar c = true :=
        fun c => List.mem_takeWhile_imp
      generalize cs.takeWhile isSchemeChar = name at split parts chars
      dsimp only at split
      split at split
      · rename_i stop
        rw [stop] at parts
        split at split
        · cases split
        · split at split
          · cases split
          · rename_i short
            cases split
            have cut : cs = name ++ "://".toList ++ rest := by
              rw [← parts, schemeMark, List.append_assoc]
              rfl
            rw [cut] at other other'
            have http := mt (startsWithFolded_named chars isLower_http).mpr other
            have https := mt (startsWithFolded_named chars isLower_https).mpr other'
            exact ⟨name, ⟨chars, Nat.le_of_not_lt short⟩, cut, by
              rw [schemeNamed, if_neg http, if_neg https]⟩
      · cases split

theorem isAuthorityChar_of_step {scan next : AuthorityScan} {c : Char}
    (step : scan.step c = some next) : isAuthorityChar c = true := by
  unfold AuthorityScan.step at step
  split at step
  · cases step
  · rename_i allowed
    simpa using allowed

theorem chars_of_isAuthority {cs : List Char} (authority : isAuthority cs = true) :
    cs ≠ [] ∧ ∀ c ∈ cs, isAuthorityChar c = true := by
  unfold isAuthority at authority
  split at authority
  · rename_i scan scanned
    rw [Bool.and_eq_true] at authority
    refine ⟨by simpa using authority.1, ?_⟩
    clear authority
    generalize ({} : AuthorityScan) = start at scanned
    induction cs generalizing start with
    | nil => simp
    | cons c cs ih =>
      rw [List.foldlM_cons] at scanned
      obtain ⟨next, step, later⟩ := Option.bind_eq_some_iff.mp scanned
      exact List.forall_mem_cons.mpr ⟨isAuthorityChar_of_step step, ih next later⟩
  · cases authority

theorem not_endsAuthority {c : Char} (allowed : isAuthorityChar c = true) :
    endsAuthority c = false := by
  rw [← Bool.not_eq_true]
  intro ends
  simp only [endsAuthority, Bool.or_eq_true, decide_eq_true_eq] at ends
  rcases ends with (rfl | rfl) | rfl <;> simp [isAuthorityChar] at allowed

-- What may follow an authority and is read as a location.
structure IsTail (tail : List Char) : Prop where
  starts : ∀ c ∈ tail.head?, endsAuthority c = true
  located : (location? tail).isSome = true

theorem cut_of_isTail {authority tail : List Char} (isAuthority : isAuthority authority = true)
    (isTail : IsTail tail) :
    (authority ++ tail).takeWhile (!endsAuthority ·) = authority ∧
      (authority ++ tail).dropWhile (!endsAuthority ·) = tail := by
  have all : ∀ c ∈ authority, (!endsAuthority c) = true := fun c member => by
    rw [not_endsAuthority ((chars_of_isAuthority isAuthority).2 c member)]
    rfl
  cases tail with
  | nil => simpa using all
  | cons c tail =>
    have stops : (!endsAuthority c) = false := by rw [isTail.starts c rfl]; rfl
    exact ⟨takeWhile_cut tail all stops, dropWhile_cut tail all stops⟩

theorem head_of_dropWhile {α : Type} {p : α → Bool} {l : List α} :
    ∀ a ∈ (l.dropWhile p).head?, p a = false := by
  intro a first
  have := List.head?_dropWhile_not p l
  rw [Option.mem_def] at first
  rw [first] at this
  simpa using this

theorem parseChars?_absolute_iff {cs : List Char} {scheme authority : String} :
    (∃ location, parseChars? cs = some ⟨some scheme, some authority, location⟩) ↔
      ∃ name tail, IsName name ∧ cs = name ++ "://".toList ++ (authority.toList ++ tail) ∧
        scheme = schemeNamed name ∧ isAuthority authority.toList = true ∧ IsTail tail := by
  constructor
  · rintro ⟨location, parsed⟩
    unfold parseChars? at parsed
    split at parsed
    · cases parsed
    · cases parsed
    · obtain ⟨_, _, same⟩ := Option.map_eq_some_iff.mp parsed
      cases same
    · split at parsed
      · cases parsed
      · rename_i named rest split
        dsimp only at parsed
        split at parsed
        · cases parsed
        · rename_i accepted
          split at parsed
          · split at parsed <;> cases parsed
          · obtain ⟨located, there, same⟩ := Option.map_eq_some_iff.mp parsed
            cases same
            obtain ⟨name, isName, cut, same⟩ := named_of_splitScheme split
            have whole : (String.ofList (rest.takeWhile (!endsAuthority ·))).toList
                ++ rest.dropWhile (!endsAuthority ·) = rest := by
              rw [String.toList_ofList, List.takeWhile_append_dropWhile]
            refine ⟨name, rest.dropWhile (!endsAuthority ·), isName, ?_, same, ?_, ?_, ?_⟩
            · rw [whole]
              exact cut
            · rw [String.toList_ofList]
              simpa using accepted
            · intro c first
              simpa using head_of_dropWhile c first
            · rw [there]
              rfl
  · rintro ⟨name, tail, isName, rfl, rfl, accepted, isTail⟩
    obtain ⟨nonempty, _⟩ := chars_of_isAuthority accepted
    obtain ⟨location, located⟩ := Option.isSome_iff_exists.mp isTail.located
    obtain ⟨taken, dropped⟩ := cut_of_isTail accepted isTail
    have split := splitScheme_named isName
      (fun empty => nonempty (List.append_eq_nil_iff.mp empty).1 : authority.toList ++ tail ≠ [])
    refine ⟨location, ?_⟩
    have slash : isSchemeChar '/' = false := by decide
    unfold parseChars?
    split
    · rename_i none
      simp at none
    · rename_i star
      have length := congrArg List.length star
      simp at length
      omega
    · rename_i rest started
      cases name with
      | nil => simp at started
      | cons c name =>
        have first := isName.chars c List.mem_cons_self
        rw [(List.cons.inj started).1, slash] at first
        cases first
    · rw [split]
      simp only [taken, dropped, accepted, located]
      simp

end Uri

namespace Endpoint

theorem namesScheme_append (name rest : List Char) :
    namesScheme (name ++ "://".toList ++ rest) = true := by
  rw [Uri.schemeMark]
  induction name with
  | nil => rfl
  | cons c name ih =>
    rw [List.cons_append, List.cons_append]
    unfold namesScheme
    split
    · rfl
    · rename_i same
      rw [← (List.cons.inj same).2]
      exact ih
    · rename_i none
      cases none

-- What stands before the authority: the scheme in one of its forms, or nothing if no scheme is
-- named anywhere.
inductive Heads (address : String) : (scheme : String) → (head : List Char) → Prop where
  | bare (unnamed : namesScheme address.toList = false) : Heads address "http" []
  | named {name : List Char} (isName : Uri.IsName name) :
    Heads address (Uri.schemeNamed name) (name ++ "://".toList)

-- The address as a way to write the endpoint. A scheme that is missing is added before the address
-- is read and counts for its length.
structure Spelled (e : Endpoint) (head tail : List Char) (address : String) : Prop where
  text : address.toList = head ++ (e.authority.toList ++ tail)
  heads : Heads address e.scheme head
  authority : Uri.isAuthority e.authority.toList = true
  isTail : Uri.IsTail tail
  short : address.utf8ByteSize + (if head = [] then 7 else 0) ≤ Uri.longest

-- The text that is read for an address.
def read (address : String) : String :=
  if namesScheme address.toList then address else "http://" ++ address

theorem parse?_eq_read {address : String} {e : Endpoint} :
    parse? address = some e ↔ ∃ location,
      Uri.parse? (read address) = some ⟨some e.scheme, some e.authority, location⟩ := by
  unfold parse?
  dsimp only
  split
  · rename_i scheme authority location parsed
    rw [read, parsed]
    constructor
    · rintro ⟨⟩
      exact ⟨location, rfl⟩
    · rintro ⟨_, ⟨⟩⟩
      rfl
  · rename_i other
    refine iff_of_false (by simp) ?_
    rintro ⟨location, parsed⟩
    exact other _ _ _ parsed

theorem parse?_eq_some_iff_read {address : String} {e : Endpoint} :
    parse? address = some e ↔ (read address).utf8ByteSize ≤ Uri.longest ∧
      ∃ name tail, Uri.IsName name ∧
        (read address).toList = name ++ "://".toList ++ (e.authority.toList ++ tail) ∧
        e.scheme = Uri.schemeNamed name ∧ Uri.isAuthority e.authority.toList = true ∧
        Uri.IsTail tail := by
  rw [parse?_eq_read, ← Uri.parseChars?_absolute_iff, Uri.parse?]
  split
  · rename_i long
    exact iff_of_false (by simp) fun both => Nat.not_le.mpr long both.1
  · rename_i short
    exact (and_iff_right (Nat.le_of_not_lt short)).symm

theorem toList_read_bare {address : String} (unnamed : namesScheme address.toList = false) :
    (read address).toList = "http".toList ++ "://".toList ++ address.toList := by
  rw [read, unnamed, if_neg Bool.false_ne_true, String.toList_append]
  rfl

theorem size_read_bare {address : String} (unnamed : namesScheme address.toList = false) :
    (read address).utf8ByteSize = address.utf8ByteSize + 7 := by
  rw [read, unnamed, if_neg Bool.false_ne_true, String.utf8ByteSize_append, Nat.add_comm]
  rfl

theorem isName_http : Uri.IsName "http".toList where
  chars := by simp [Uri.isSchemeChar]
  short := by simp [Uri.longestScheme]

theorem schemeNamed_http : Uri.schemeNamed "http".toList = "http" := by decide

theorem parse?_eq_some_iff {address : String} {e : Endpoint} :
    parse? address = some e ↔ ∃ head tail, e.Spelled head tail address := by
  rw [parse?_eq_some_iff_read]
  constructor
  · rintro ⟨short, name, tail, isName, cut, scheme, authority, isTail⟩
    cases named : namesScheme address.toList with
    | true =>
      have same : read address = address := by rw [read, named, if_pos rfl]
      rw [same] at cut short
      refine ⟨name ++ "://".toList, tail, cut, scheme ▸ .named isName, authority, isTail, ?_⟩
      rw [if_neg (by simp)]
      exact short
    | false =>
      rw [toList_read_bare named] at cut
      rw [size_read_bare named] at short
      obtain ⟨rfl, text⟩ := Uri.name_unique isName_http.chars isName.chars cut
      rw [schemeNamed_http] at scheme
      exact ⟨[], tail, text, scheme ▸ .bare named, authority, isTail, short⟩
  · obtain ⟨scheme, authority⟩ := e
    rintro ⟨head, tail, text, heads, accepted, isTail, short⟩
    cases heads with
    | bare unnamed =>
      rw [toList_read_bare unnamed, size_read_bare unnamed]
      refine ⟨short, _, tail, isName_http, ?_, schemeNamed_http.symm, accepted, isTail⟩
      rw [text]
      rfl
    | @named name isName =>
      have named : namesScheme address.toList = true := by
        rw [text]
        exact namesScheme_append ..
      have same : read address = address := by rw [read, named, if_pos rfl]
      rw [same]
      rw [if_neg (by simp)] at short
      exact ⟨short, name, tail, isName, text, rfl, accepted, isTail⟩

-- Every address that names no scheme is read like the one with the scheme before it.
theorem parse?_http_append {address : String} (unnamed : namesScheme address.toList = false) :
    parse? ("http://" ++ address) = parse? address := by
  have named : namesScheme ("http://" ++ address).toList = true := by
    rw [String.toList_append]
    exact namesScheme_append "http".toList address.toList
  have same : read ("http://" ++ address) = read address := by
    rw [read, named, if_pos rfl, read, unnamed, if_neg Bool.false_ne_true]
  refine Option.ext fun e => ?_
  rw [parse?_eq_read, parse?_eq_read, same]

-- Nothing in the address ends an authority.
def Plain (address : String) : Prop := ∀ c ∈ address.toList, Uri.endsAuthority c = false

instance (address : String) : Decidable (Plain address) :=
  inferInstanceAs (Decidable (∀ c ∈ address.toList, Uri.endsAuthority c = false))

theorem eq_of_plain {address : String} (plain : Plain address) {e : Endpoint}
    (parsed : parse? address = some e) : e = ⟨"http", address⟩ := by
  obtain ⟨head, tail, spelled⟩ := parse?_eq_some_iff.mp parsed
  obtain ⟨scheme, authority⟩ := e
  have inside (c : Char) (member : c ∈ head ++ (authority.toList ++ tail)) :
      Uri.endsAuthority c = false := plain c (spelled.text ▸ member)
  cases spelled.heads with
  | named isName => exact absurd (inside '/' (by simp)) (by decide)
  | bare =>
    cases tail with
    | cons c tail =>
      have ends := spelled.isTail.starts c rfl
      rw [inside c (by simp)] at ends
      cases ends
    | nil =>
      have text := spelled.text
      rw [List.nil_append, List.append_nil, String.toList_inj] at text
      rw [text]

-- Whether two endpoints differ in the case of letters at most, which is how schemes and authorities
-- are compared.
def alike (e e' : Endpoint) : Bool :=
  Text.sameAscii e.scheme e'.scheme && Text.sameAscii e.authority e'.authority

theorem alike_iff_of_plain {address address' : String} (plain : Plain address)
    (plain' : Plain address') {e e' : Endpoint} (parsed : parse? address = some e)
    (parsed' : parse? address' = some e') : e.alike e' ↔ Text.sameAscii address address' := by
  rw [eq_of_plain plain parsed, eq_of_plain plain' parsed', alike, Text.sameAscii]
  simp

end Endpoint

end Balancing
