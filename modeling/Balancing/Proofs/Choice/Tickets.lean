import Balancing.Proofs.Choice.Draw
import Mathlib.Order.Interval.Finset.Nat

namespace Balancing

namespace Words

theorem toNat_pos {total : UInt64} (nonempty : total ≠ 0) : 0 < total.toNat := by
  rw [Nat.pos_iff_ne_zero]
  exact fun zero => nonempty (UInt64.toNat.inj zero)

theorem high_lt (v : UInt64) {total : UInt64} (nonempty : total ≠ 0) :
    UInt64.ofNat (v.toNat * total.toNat / wordCount) < total := by
  have high : v.toNat * total.toNat / wordCount < total.toNat := by
    rw [Nat.div_lt_iff_lt_mul (by decide), Nat.mul_comm]
    exact Nat.mul_lt_mul_of_pos_left v.toNat_lt (toNat_pos nonempty)
  rw [UInt64.lt_iff_toNat_lt, UInt64.toNat_ofNat', Nat.mod_eq_of_lt (high.trans total.toNat_lt)]
  exact high

theorem draw_lt (patience : Nat) {total : UInt64} (nonempty : total ≠ 0) (w : Words) :
    (draw patience total w).1 < total := by
  induction patience generalizing w with
  | zero => exact high_lt _ nonempty
  | succ patience ih =>
    rw [draw]
    dsimp only
    split
    · exact high_lt _ nonempty
    · exact ih _

theorem below_lt {total : UInt64} (nonempty : total ≠ 0) (w : Words) :
    (below total w).1 < total := draw_lt _ nonempty w

theorem le_zone {total : UInt64} (nonempty : total ≠ 0) :
    total.toNat ≤ (zone total).toNat + 1 := by
  have positive := toNat_pos nonempty
  have narrow : total.toNat.log2 < 64 := (Nat.log2_lt positive.ne').mpr total.toNat_lt
  have shifted : (total <<< UInt64.ofNat (63 - total.toNat.log2)).toNat
      = total.toNat * 2 ^ (63 - total.toNat.log2) := by
    have short : (63 - total.toNat.log2) % 2 ^ 64 % 64 = 63 - total.toNat.log2 := by omega
    rw [UInt64.toNat_shiftLeft, UInt64.toNat_ofNat', short, Nat.shiftLeft_eq, Nat.mod_eq_of_lt]
    calc total.toNat * 2 ^ (63 - total.toNat.log2)
        < 2 ^ (total.toNat.log2 + 1) * 2 ^ (63 - total.toNat.log2) :=
          Nat.mul_lt_mul_of_pos_right Nat.lt_log2_self (Nat.two_pow_pos _)
      _ = 2 ^ 64 := by rw [← Nat.pow_add]; congr 1; omega
  have more : total.toNat ≤ total.toNat * 2 ^ (63 - total.toNat.log2) :=
    Nat.le_mul_of_pos_right _ (Nat.two_pow_pos _)
  have one : (1 : UInt64) ≤ total <<< UInt64.ofNat (63 - total.toNat.log2) := by
    rw [UInt64.le_iff_toNat_le, shifted, UInt64.toNat_one]
    omega
  rw [zone, UInt64.toNat_sub_of_le _ _ one, shifted, UInt64.toNat_one]
  omega

theorem draw_of_kept (patience : Nat) {total : UInt64} {w : Words}
    (kept : UInt64.ofNat ((w.word w.used).toNat * total.toNat) ≤ zone total) :
    draw (patience + 1) total w = (.ofNat ((w.word w.used).toNat * total.toNat / wordCount),
      { w with used := w.used + 1 }) := by
  rw [draw]
  dsimp only [next]
  rw [if_pos kept]

-- The least word whose product reaches the ticket is never refused.
theorem exists_word {total t : UInt64} (inside : t < total) :
    ∃ v, ∀ w : Words, w.word w.used = v → below total w = (t, { w with used := w.used + 1 }) := by
  have nonempty : total ≠ 0 := fun zero => by simp [zero] at inside
  have positive := toNat_pos nonempty
  have inside := UInt64.lt_iff_toNat_lt.mp inside
  have bound := total.toNat_lt
  obtain ⟨v, reaches, least⟩ : ∃ v, t.toNat * 2 ^ 64 ≤ v * total.toNat ∧
      v * total.toNat < t.toNat * 2 ^ 64 + total.toNat := by
    refine ⟨(t.toNat * 2 ^ 64 + (total.toNat - 1)) / total.toNat, ?_, ?_⟩
    · have next := Nat.lt_div_mul_add (a := t.toNat * 2 ^ 64 + (total.toNat - 1)) positive
      omega
    · have le := Nat.div_mul_le_self (t.toNat * 2 ^ 64 + (total.toNat - 1)) total.toNat
      omega
  have fits : v < 2 ^ 64 := by
    refine Nat.lt_of_mul_lt_mul_right (a := total.toNat) ?_
    omega
  have high : v * total.toNat / wordCount = t.toNat := by
    unfold wordCount
    omega
  have low : v * total.toNat % 2 ^ 64 ≤ (zone total).toNat := by
    have wide := le_zone nonempty
    omega
  have exact_word : (UInt64.ofNat v).toNat = v := by
    rw [UInt64.toNat_ofNat', Nat.mod_eq_of_lt fits]
  refine ⟨.ofNat v, fun w word => ?_⟩
  have kept : UInt64.ofNat ((w.word w.used).toNat * total.toNat) ≤ zone total := by
    rw [word, exact_word, UInt64.le_iff_toNat_le, UInt64.toNat_ofNat']
    exact low
  rw [below, standardPatience, draw_of_kept 65535 kept, word, exact_word, high,
    UInt64.ofNat_toNat]

end Words

namespace Weighted

variable {row : Pool} {c : Nat × UInt64}

theorem mass_take_succ {i : Nat} (found : row[i]? = some c) :
    mass (row.take (i + 1)) = mass (row.take i) + c.2.toNat := by
  rw [List.take_add_one, found, Option.toList_some, mass, List.map_append, List.sum_append]
  rfl

theorem mass_take_mono (row : Pool) {i k : Nat} (le : i ≤ k) :
    mass (row.take i) ≤ mass (row.take k) := by
  have parts := List.take_append_drop i (row.take k)
  rw [List.take_take, Nat.min_eq_left le] at parts
  rw [← parts, mass, mass, List.map_append, List.sum_append]
  exact Nat.le_add_right ..

theorem mass_take_le (row : Pool) (i : Nat) : mass (row.take i) ≤ mass row := by
  rcases Nat.le_total i row.length with inside | beyond
  · rw [← List.take_length (l := row), List.take_take, Nat.min_eq_left inside]
    exact mass_take_mono row inside
  · rw [List.take_of_length_le beyond]

-- The ticket is not below what the weights before a place add up to, but below what they add up to
-- with its own.
structure StopsAt (row : Pool) (t i : Nat) (c : Nat × UInt64) : Prop where
  found : row[i]? = some c
  passed : mass (row.take i) ≤ t
  stops : t < mass (row.take i) + c.2.toNat

namespace StopsAt

variable {t i i' : Nat} {c' : Nat × UInt64}

theorem not_later (stops : StopsAt row t i c) (stops' : StopsAt row t i' c') : ¬i < i' := by
  intro later
  have before := mass_take_mono row (Nat.succ_le_of_lt later)
  rw [mass_take_succ stops.found] at before
  have := stops.stops
  have := stops'.passed
  omega

theorem unique (stops : StopsAt row t i c) (stops' : StopsAt row t i' c') : i = i' := by
  have := stops.not_later stops'
  have := stops'.not_later stops
  omega

theorem below (stops : StopsAt row t i c) : t < mass row := by
  have whole := mass_take_le row (i + 1)
  rw [mass_take_succ stops.found] at whole
  have := stops.stops
  omega

end StopsAt

-- The loop from any place of the row on, with what it has added up so far.
theorem position_of_below {ticket : UInt64} (sum : UInt64) (fits : sum.toNat + mass row < 2 ^ 64)
    (passed : sum.toNat ≤ ticket.toNat) (below : ticket.toNat < sum.toNat + mass row)
    (index : Nat) : ∃ i c, position ticket sum index row = .ok (index + i) ∧ row[i]? = some c ∧
      sum.toNat + mass (row.take i) ≤ ticket.toNat ∧
      ticket.toNat < sum.toNat + mass (row.take i) + c.2.toNat := by
  induction row generalizing sum index with
  | nil => exact absurd below (Nat.not_lt.mpr passed)
  | cons c row ih =>
    rw [mass_cons] at fits below
    have room : sum.toNat + c.2.toNat < 2 ^ 64 := by omega
    have added := Word.toNat_add_of_lt room
    rw [position_cons ticket room]
    split
    · rename_i stops
      rw [UInt64.lt_iff_toNat_lt, added] at stops
      exact ⟨0, c, rfl, rfl, passed, stops⟩
    · rename_i further
      rw [UInt64.lt_iff_toNat_lt, added] at further
      obtain ⟨i, d, same, found, from_here, stops⟩ := ih (sum + c.2) (by omega) (by omega)
        (by omega) (index + 1)
      rw [added] at from_here stops
      refine ⟨i + 1, d, ?_, found, ?_, ?_⟩
      · rw [same, Nat.add_right_comm, Nat.add_assoc]
      · rw [List.take_succ_cons, mass_cons]
        omega
      · rw [List.take_succ_cons, mass_cons]
        omega

theorem stopsAt_position {t : UInt64} (fits : mass row < 2 ^ 64) (below : t.toNat < mass row) :
    ∃ i c, position t 0 0 row = .ok i ∧ StopsAt row t.toNat i c := by
  obtain ⟨i, c, same, found, passed, stops⟩ := position_of_below 0 (by simpa using fits)
    (Nat.zero_le _) (by simpa using below) 0
  rw [Nat.zero_add] at same
  rw [UInt64.toNat_zero, Nat.zero_add] at passed stops
  exact ⟨i, c, same, found, passed, stops⟩

-- The place that a ticket selects.
def selected (row : Pool) (t : UInt64) : Option Nat :=
  (position t 0 0 row).toOption.bind fun i => row[i]?.map Prod.fst

theorem selected_of_found {t : UInt64} {i : Nat} (placed : position t 0 0 row = .ok i)
    (found : row[i]? = some c) : selected row t = some c.1 := by
  simp [selected, placed, found, Except.toOption]

theorem index_unique (distinct : (row.map Prod.fst).Nodup) {i i' : Nat} {c c' : Nat × UInt64}
    (found : row[i]? = some c) (found' : row[i']? = some c') (same : c.1 = c'.1) : i = i' := by
  obtain ⟨inside, rfl⟩ := List.getElem?_eq_some_iff.mp found
  obtain ⟨inside', rfl⟩ := List.getElem?_eq_some_iff.mp found'
  have within : i < (row.map Prod.fst).length := by rwa [List.length_map]
  have within' : i' < (row.map Prod.fst).length := by rwa [List.length_map]
  have places : (row.map Prod.fst)[i] = (row.map Prod.fst)[i'] := by
    rw [List.getElem_map, List.getElem_map, same]
  exact distinct.getElem_inj_iff.mp places

-- Each place is selected by the tickets of one interval, as long as its weight.
theorem selected_iff (distinct : (row.map Prod.fst).Nodup) (fits : mass row < 2 ^ 64) {i : Nat}
    (found : row[i]? = some c) {t : UInt64} (below : t.toNat < mass row) :
    selected row t = some c.1 ↔
      mass (row.take i) ≤ t.toNat ∧ t.toNat < mass (row.take i) + c.2.toNat := by
  obtain ⟨i', c', placed, there⟩ := stopsAt_position fits below
  rw [selected_of_found placed there.found, Option.some_inj]
  constructor
  · intro same
    have place := index_unique distinct there.found found same
    have same : c' = c := by
      have found' := there.found
      rw [place, found, Option.some_inj] at found'
      exact found'.symm
    rw [place, same] at there
    exact ⟨there.passed, there.stops⟩
  · rintro ⟨passed, stops⟩
    have place := there.unique ⟨found, passed, stops⟩
    have found' := there.found
    rw [place, found, Option.some_inj] at found'
    rw [found']

theorem card_selected (distinct : (row.map Prod.fst).Nodup) (fits : mass row < 2 ^ 64)
    (member : c ∈ row) :
    ((Finset.range (mass row)).filter fun t => selected row (.ofNat t) = some c.1).card
      = c.2.toNat := by
  obtain ⟨i, found⟩ := List.mem_iff_getElem?.mp member
  have interval : ((Finset.range (mass row)).filter fun t => selected row (.ofNat t) = some c.1)
      = Finset.Ico (mass (row.take i)) (mass (row.take i) + c.2.toNat) := by
    ext t
    rw [Finset.mem_filter, Finset.mem_range, Finset.mem_Ico]
    have exact_ticket (below : t < mass row) : (UInt64.ofNat t).toNat = t := by
      rw [UInt64.toNat_ofNat', Nat.mod_eq_of_lt (below.trans fits)]
    constructor
    · rintro ⟨below, chosen⟩
      have within := (selected_iff distinct fits found (by rwa [exact_ticket below])).mp chosen
      rwa [exact_ticket below] at within
    · intro within
      have below := StopsAt.below ⟨found, within.1, within.2⟩
      refine ⟨below, (selected_iff distinct fits found (by rwa [exact_ticket below])).mpr ?_⟩
      rwa [exact_ticket below]
  rw [interval, Nat.card_Ico, Nat.add_sub_cancel_left]

-- The row that is left once some places were drawn.
def rowAfter (row : Pool) : List Nat → Pool
  | [] => row
  | place :: places => rowAfter (remove row (row.findIdx fun c => c.1 = place)) places

theorem findIdx_of_found (distinct : (row.map Prod.fst).Nodup) {i : Nat}
    (found : row[i]? = some c) : (row.findIdx fun d => d.1 = c.1) = i := by
  have inside : (row.findIdx fun d => d.1 = c.1) < row.length :=
    List.findIdx_lt_length_of_exists ⟨c, List.mem_of_getElem? found, by simp⟩
  have same := List.findIdx_getElem (w := inside)
  exact index_unique distinct (List.getElem?_eq_getElem inside) found (by simpa using same)

theorem distinct_remove (distinct : (row.map Prod.fst).Nodup) {i : Nat} (found : row[i]? = some c) :
    c.1 ∉ (remove row i).map Prod.fst ∧ ((remove row i).map Prod.fst).Nodup := by
  have perm := (remove_perm found).map Prod.fst
  exact List.nodup_cons.mp (perm.nodup_iff.mpr distinct)

theorem remove_perm_filter (distinct : (row.map Prod.fst).Nodup) {i : Nat}
    (found : row[i]? = some c) : (remove row i).Perm (row.filter fun d => d.1 ≠ c.1) := by
  have others : ∀ d ∈ remove row i, d.1 ≠ c.1 := fun d member same =>
    (distinct_remove distinct found).1 (same ▸ List.mem_map_of_mem member)
  have perm := (remove_perm found).filter fun d => d.1 ≠ c.1
  rw [List.filter_cons_of_neg (by simp), List.filter_eq_self.mpr (by simpa using others)] at perm
  exact perm

theorem mem_places_remove {i : Nat} (found : row[i]? = some c) {place : Nat}
    (listed : place ∈ row.map Prod.fst) (other : place ≠ c.1) :
    place ∈ (remove row i).map Prod.fst := by
  have among := ((remove_perm found).map Prod.fst).mem_iff.mpr listed
  exact (List.mem_cons.mp among).resolve_left other

theorem rowAfter_perm (distinct : (row.map Prod.fst).Nodup) {places : List Nat}
    (once : places.Nodup) (listed : ∀ place ∈ places, place ∈ row.map Prod.fst) :
    (rowAfter row places).Perm (row.filter fun c => c.1 ∉ places) := by
  induction places generalizing row with
  | nil => simp [rowAfter]
  | cons place places ih =>
    obtain ⟨c, member, rfl⟩ := List.mem_map.mp (listed _ List.mem_cons_self)
    obtain ⟨i, found⟩ := List.mem_iff_getElem?.mp member
    obtain ⟨fresh, once⟩ := List.nodup_cons.mp once
    have left : ∀ place ∈ places, place ∈ (remove row i).map Prod.fst := fun place later =>
      mem_places_remove found (listed _ (List.mem_cons_of_mem _ later)) fun same =>
        fresh (same ▸ later)
    have rest := ih (distinct_remove distinct found).2 once left
    rw [rowAfter, findIdx_of_found distinct found]
    refine (rest.trans ((remove_perm_filter distinct found).filter _)).trans ?_
    rw [List.filter_filter]
    refine .of_eq (List.filter_congr fun d _ => ?_)
    simp [Bool.and_comm]

section

variable {γ : Type} {ticket : UInt64 → γ → UInt64 × γ}

-- A source of tickets that writes down every range and the ticket it gave for it.
def recorded (ticket : UInt64 → γ → UInt64 × γ) (total : UInt64)
    (s : γ × List (UInt64 × UInt64)) : UInt64 × γ × List (UInt64 × UInt64) :=
  let (t, g) := ticket total s.1
  (t, g, s.2 ++ [(total, t)])

-- Writing down changes nothing.
theorem sample_recorded (ticket : UInt64 → γ → UInt64 × γ) (picks : Nat) (total : UInt64)
    (row : Pool) (g : γ) (log : List (UInt64 × UInt64)) :
    sample ticket picks total row g
      = (sample (recorded ticket) picks total row (g, log)).map fun run => (run.1, run.2.1) := by
  induction picks generalizing total row g log with
  | zero => rfl
  | succ picks ih =>
    rw [sample, sample]
    split
    · rfl
    · dsimp only [recorded]
      cases position (ticket total g).1 0 0 row with
      | error e => rfl
      | ok i =>
        simp only [bind, Except.bind]
        cases row[i]? with
        | none => rfl
        | some c =>
          cases left : Word.sub total c.2 with
          | error e => simp only [left]; rfl
          | ok rest =>
            simp only [left]
            rw [ih _ _ _ (log ++ [(total, (ticket total g).1)])]
            cases sample (recorded ticket) picks rest (remove row i)
              ((ticket total g).2, log ++ [(total, (ticket total g).1)]) <;> rfl

-- One round after the other: the range is what the row weighs, and the ticket below it selects one
-- place of the row.
inductive Rounds : Pool → List (UInt64 × UInt64) → List Nat → Prop where
  | done (row : Pool) : Rounds row [] []
  | round {row : Pool} {total t : UInt64} {i : Nat} {c : Nat × UInt64}
      {log : List (UInt64 × UInt64)} {places : List Nat} (whole : total.toNat = mass row)
      (below : t < total) (placed : position t 0 0 row = .ok i) (found : row[i]? = some c)
      (later : Rounds (remove row i) log places) : Rounds row ((total, t) :: log) (c.1 :: places)

theorem rounds_sample (lawful : ∀ total g, total ≠ 0 → (ticket total g).1 < total) {picks : Nat}
    {total : UInt64} (enough : picks ≤ row.length) (sums : Sums total row) (g : γ)
    (log : List (UInt64 × UInt64)) :
    ∃ run later, sample (recorded ticket) picks total row (g, log) = .ok run ∧
      run.2.2 = log ++ later ∧ Rounds row later run.1 := by
  induction picks generalizing total row g log with
  | zero => exact ⟨_, [], rfl, (List.append_nil log).symm, .done row⟩
  | succ picks ih =>
    have nonempty : row ≠ [] := List.ne_nil_of_length_pos (by omega)
    obtain ⟨i, c, placed, found, drawn⟩ :=
      sample_succ (recorded ticket) picks sums nonempty (g, log)
    have shrunk := length_remove (List.getElem?_eq_some_iff.mp found).1
    obtain ⟨run, later, went, written, rounds⟩ := ih (by omega) (sums.remove found)
      (ticket total g).2 (log ++ [(total, (ticket total g).1)])
    have below := lawful total g (sums.ne_zero nonempty)
    have went : sample (recorded ticket) picks (total - c.2) (remove row i)
      (recorded ticket total (g, log)).2 = .ok run := went
    rw [drawn, went]
    refine ⟨_, (total, (ticket total g).1) :: later, rfl, ?_,
      .round sums.whole below placed found rounds⟩
    exact written.trans (List.append_assoc ..)

theorem Rounds.length_eq {log : List (UInt64 × UInt64)} {places : List Nat}
    (rounds : Rounds row log places) : log.length = places.length := by
  induction rounds with
  | done => rfl
  | round _ _ _ _ _ ih => rw [List.length_cons, List.length_cons, ih]

-- What a round asks for and selects depends on the places drawn before it alone.
theorem Rounds.at {log : List (UInt64 × UInt64)} {places : List Nat}
    (rounds : Rounds row log places) (distinct : (row.map Prod.fst).Nodup) {j : Nat}
    (inside : j < places.length) :
    ∃ total t, log[j]? = some (total, t) ∧ t < total ∧
      total.toNat = mass (rowAfter row (places.take j)) ∧
      places[j]? = selected (rowAfter row (places.take j)) t := by
  induction rounds generalizing j with
  | done => cases inside
  | @round row total t i c log places whole below placed found later ih =>
    cases j with
    | zero =>
      refine ⟨total, t, rfl, below, whole, ?_⟩
      rw [List.take_zero, rowAfter, selected_of_found placed found]
      rfl
    | succ j =>
      rw [List.take_succ_cons, rowAfter, findIdx_of_found distinct found]
      exact ih (distinct_remove distinct found).2 (Nat.lt_of_succ_lt_succ inside)

-- The first ticket of an interval selects its place.
theorem exists_ticket {total : UInt64} (whole : total.toNat = mass row) {i : Nat}
    (found : row[i]? = some c) (weight : 0 < c.2) :
    ∃ t < total, position t 0 0 row = .ok i := by
  have weight := UInt64.lt_iff_toNat_lt.mp weight
  have fits : mass row < 2 ^ 64 := whole ▸ total.toNat_lt
  have stops : StopsAt row (mass (row.take i)) i c :=
    ⟨found, Nat.le_refl _, Nat.lt_add_of_pos_right weight⟩
  have exact_ticket : (UInt64.ofNat (mass (row.take i))).toNat = mass (row.take i) := by
    rw [UInt64.toNat_ofNat', Nat.mod_eq_of_lt (stops.below.trans fits)]
  refine ⟨.ofNat (mass (row.take i)), ?_, ?_⟩
  · rw [UInt64.lt_iff_toNat_lt, whole, exact_ticket]
    exact stops.below
  · obtain ⟨j, d, placed, there⟩ :=
      stopsAt_position fits (by rw [exact_ticket]; exact stops.below)
    rw [exact_ticket] at there
    rw [placed, there.unique stops]

theorem exists_words {total : UInt64} (distinct : (row.map Prod.fst).Nodup)
    (sums : Sums total row) {places : List Nat} (once : places.Nodup)
    (listed : ∀ place ∈ places, place ∈ row.map Prod.fst) :
    ∃ words : List UInt64, ∀ w : Words, (∀ k v, words[k]? = some v → w.word (w.used + k) = v) →
      ∃ rest, sample Words.below places.length total row w = .ok (places, rest) := by
  induction places generalizing total row with
  | nil => exact ⟨[], fun w _ => ⟨w, rfl⟩⟩
  | cons place places ih =>
    obtain ⟨c, member, rfl⟩ := List.mem_map.mp (listed _ List.mem_cons_self)
    obtain ⟨i, found⟩ := List.mem_iff_getElem?.mp member
    obtain ⟨fresh, once⟩ := List.nodup_cons.mp once
    obtain ⟨t, below, placed⟩ := exists_ticket sums.whole found (sums.positive c member)
    obtain ⟨v, reaches⟩ := Words.exists_word below
    have left : ∀ place ∈ places, place ∈ (remove row i).map Prod.fst := fun place later =>
      mem_places_remove found (listed _ (List.mem_cons_of_mem _ later)) fun same =>
        fresh (same ▸ later)
    obtain ⟨words, later⟩ := ih (distinct_remove distinct found).2 (sums.remove found) once left
    refine ⟨v :: words, fun w given => ?_⟩
    have drawn := reaches w (given 0 v rfl)
    have there : position (Words.below total w).1 0 0 row = .ok i := by rw [drawn, placed]
    obtain ⟨rest, went⟩ := later { w with used := w.used + 1 } fun k u word => by
      rw [Nat.add_assoc, Nat.add_comm 1 k]
      exact given (k + 1) u word
    refine ⟨rest, ?_⟩
    rw [List.length_cons, sample_of_found sums there found, drawn, went]
    rfl

end

-- What a server weighs in numbers without a bound.
def weightAt (servers : List Server) (i : Nat) : Nat := (fullWeights servers).getD i 0

theorem weightAt_pos {servers : List Server} {i : Nat} (inside : i < servers.length) :
    1 ≤ weightAt servers i := by
  rw [← length_fullWeights] at inside
  rw [weightAt, List.getD_eq_getElem?_getD, List.getElem?_eq_getElem inside, Option.getD_some]
  exact fullWeights_pos (List.getElem_mem inside)

-- What the places weigh that were not drawn.
def rangeAfter (servers : List Server) (places : List Nat) : Nat :=
  (((List.range servers.length).filter (· ∉ places)).map (weightAt servers)).sum

section

variable {servers : List Server} {ws : List UInt64} {sum : UInt64}
  (weighs : Weighs servers ws sum)

include weighs

theorem places_fullPool : (fullPool ws).map Prod.fst = List.range servers.length := by
  rw [map_fst_fullPool, length_of_weights weighs.weights]

theorem distinct_fullPool : ((fullPool ws).map Prod.fst).Nodup := by
  rw [places_fullPool weighs]
  exact List.nodup_range

theorem mem_places_fullPool {i : Nat} :
    i ∈ (fullPool ws).map Prod.fst ↔ i < servers.length := by
  rw [places_fullPool weighs, List.mem_range]

theorem toNat_of_fullPool (member : c ∈ fullPool ws) : c.2.toNat = weightAt servers c.1 := by
  obtain ⟨⟨weight, i⟩, listed, rfl⟩ := List.mem_map.mp member
  have found := List.mem_zipIdx_iff_getElem?.mp listed
  rw [weightAt, ← weighs.full, List.getD_eq_getElem?_getD, List.getElem?_map, found]
  rfl

section

variable {places : List Nat} (once : places.Nodup) (within : ∀ i ∈ places, i < servers.length)

include once within

theorem rowAfter_fullPool : (rowAfter (fullPool ws) places).Perm
    ((fullPool ws).filter fun c => c.1 ∉ places) :=
  rowAfter_perm (distinct_fullPool weighs) once fun i member =>
    (mem_places_fullPool weighs).mpr (within i member)

theorem distinct_rowAfter : ((rowAfter (fullPool ws) places).map Prod.fst).Nodup := by
  rw [((rowAfter_fullPool weighs once within).map Prod.fst).nodup_iff]
  exact (distinct_fullPool weighs).sublist (List.filter_sublist.map Prod.fst)

theorem mass_rowAfter_lt : mass (rowAfter (fullPool ws) places) < 2 ^ 64 := by
  have perm := (rowAfter_fullPool weighs once within).map fun c => c.2.toNat
  have part : mass ((fullPool ws).filter fun c => c.1 ∉ places) ≤ mass (fullPool ws) :=
    List.Sublist.sum_le_sum (List.filter_sublist.map _) fun _ _ => Nat.zero_le _
  rw [mass, perm.sum_eq]
  exact part.trans_lt weighs.sums.lt

theorem mem_rowAfter {i : Nat} (inside : i < servers.length) (fresh : i ∉ places) :
    ∃ c ∈ rowAfter (fullPool ws) places, c.1 = i ∧ c.2.toNat = weightAt servers i := by
  obtain ⟨c, member, rfl⟩ := List.mem_map.mp ((mem_places_fullPool weighs).mpr inside)
  refine ⟨c, ?_, rfl, toNat_of_fullPool weighs member⟩
  rw [(rowAfter_fullPool weighs once within).mem_iff, List.mem_filter]
  exact ⟨member, by simpa using fresh⟩

-- What is left weighs as much as the places that were not drawn.
theorem mass_rowAfter : mass (rowAfter (fullPool ws) places) = rangeAfter servers places := by
  have same := ((rowAfter_fullPool weighs once within).map fun c => c.2.toNat).sum_eq
  have weighed : (((fullPool ws).filter fun c => c.1 ∉ places).map fun c => c.2.toNat)
      = ((fullPool ws).filter fun c => c.1 ∉ places).map (weightAt servers ∘ Prod.fst) :=
    List.map_congr_left fun c member =>
      toNat_of_fullPool weighs (List.mem_of_mem_filter member)
  rw [mass, same, weighed, rangeAfter, ← List.map_map, ← places_fullPool weighs, List.filter_map]
  rfl

end

section

variable {γ : Type} {ticket : UInt64 → γ → UInt64 × γ} (several : 2 ≤ servers.length)

include several

-- The first places of an order are the ones sampled.
theorem order_of_sample {count : Nat} {g : γ} {drawn : List Nat × γ}
    (went : sample ticket (min servers.length count) sum (fullPool ws) g = .ok drawn) :
    ∃ run, order ticket servers count g = .ok run ∧
      run.1.take (min servers.length count) = drawn.1 ∧ run.2 = drawn.2 := by
  have length := (sample_perm went).1
  rw [weighs.length, Nat.min_eq_left (Nat.min_le_left ..)] at length
  cases count with
  | zero =>
    rw [Nat.min_zero] at went
    cases went
    exact ⟨_, order_zero servers g, by simp, rfl⟩
  | succ count =>
    rw [order_of_weighs several (Nat.succ_pos count) ticket g weighs, went]
    have nonempty : drawn.1 ≠ [] := List.ne_nil_of_length_pos (by omega)
    exact ⟨_, rfl, take_cycle nonempty (by omega), rfl⟩

theorem order_recorded (count : Nat) (g : γ) (log : List (UInt64 × UInt64)) :
    order ticket servers count g
      = (order (recorded ticket) servers count (g, log)).map fun run => (run.1, run.2.1) := by
  cases count with
  | zero =>
    rw [order_zero, order_zero]
    rfl
  | succ count =>
    have positive := Nat.succ_pos count
    rw [order_of_weighs several positive _ _ weighs, order_of_weighs several positive _ _ weighs,
      sample_recorded ticket _ _ _ g log]
    cases sample (recorded ticket) (min servers.length count.succ) sum (fullPool ws) (g, log) <;>
      rfl

theorem rounds_order (lawful : ∀ total g, total ≠ 0 → (ticket total g).1 < total) (count : Nat)
    (g : γ) :
    ∃ run, order (recorded ticket) servers count (g, []) = .ok run ∧
      (run.1.take (min servers.length count)).length = min servers.length count ∧
      Rounds (fullPool ws) run.2.2 (run.1.take (min servers.length count)) := by
  have enough : min servers.length count ≤ (fullPool ws).length := by
    rw [weighs.length]
    exact Nat.min_le_left ..
  obtain ⟨drawn, later, went, written, rounds⟩ := rounds_sample lawful enough weighs.sums g []
  obtain ⟨run, ordered, first, state⟩ := order_of_sample weighs several went
  have length := (sample_perm went).1
  rw [Nat.min_eq_left enough] at length
  refine ⟨run, ordered, ?_, ?_⟩
  · rw [first, length]
  · rw [first, state, written]
    exact rounds

theorem order_of_words {p : List Nat} (distinct : p.Nodup) (within : ∀ i ∈ p, i < servers.length)
    {count : Nat} (whole : p.length = min servers.length count) :
    ∃ w drawn, order Words.below servers count w = .ok drawn ∧ drawn.1.take p.length = p := by
  obtain ⟨words, given⟩ := exists_words (distinct_fullPool weighs) weighs.sums distinct
    fun i member => (mem_places_fullPool weighs).mpr (within i member)
  let w : Words := { word := fun k => words.getD k 0 }
  obtain ⟨rest, went⟩ := given w fun k v found => by
    show words.getD (0 + k) 0 = v
    rw [Nat.zero_add, List.getD_eq_getElem?_getD, found, Option.getD_some]
  rw [whole] at went
  obtain ⟨run, ordered, first, _⟩ := order_of_sample weighs several went
  exact ⟨w, run, ordered, by rw [whole, first]⟩

end

end

theorem not_mem_take {p : List Nat} (distinct : p.Nodup) {j : Nat} (inside : j < p.length) :
    p[j] ∉ p.take j := by
  intro member
  have parts : p.take j ++ p[j] :: p.drop (j + 1) = p := by
    rw [← List.drop_eq_getElem_cons inside, List.take_append_drop]
  rw [← parts] at distinct
  exact (List.nodup_append.mp distinct).2.2 _ member _ List.mem_cons_self rfl

-- The rounds of an order of `servers`, whose weights are `ws`, along the places `p`.
structure ByWeight {γ : Type} (ticket : UInt64 → γ → UInt64 × γ) (servers : List Server)
    (ws : List UInt64) (count : Nat) (p : List Nat) : Prop where
  -- writing the rounds down changes nothing, and there are as many as places
  goes : ∀ g, ∃ run, order (recorded ticket) servers count (g, []) = .ok run ∧
    order ticket servers count g = .ok (run.1, run.2.1) ∧ run.2.2.length = p.length
  -- the earlier places drawn, the tickets range over what the others weigh
  asks : ∀ j < p.length, ∀ g run, order (recorded ticket) servers count (g, []) = .ok run →
    run.1.take j = p.take j → ∃ total t, run.2.2[j]? = some (total, t) ∧
      total.toNat = rangeAfter servers (p.take j) ∧ t < total ∧
      run.1[j]? = selected (rowAfter (fullPool ws) (p.take j)) t
  -- no ticket runs past the end
  stops : ∀ j < p.length, ∀ t : UInt64, t.toNat < rangeAfter servers (p.take j) →
    ∃ i c, position t 0 0 (rowAfter (fullPool ws) (p.take j)) = .ok i ∧
      StopsAt (rowAfter (fullPool ws) (p.take j)) t.toNat i c
  shares : ∀ j (inside : j < p.length), ((Finset.range (rangeAfter servers (p.take j))).filter
    fun t => selected (rowAfter (fullPool ws) (p.take j)) (.ofNat t) = some p[j]).card
      = weightAt servers p[j]
  positive : ∀ i < servers.length, 1 ≤ weightAt servers i
  occurs : ∃ w drawn, order Words.below servers count w = .ok drawn ∧ drawn.1.take p.length = p

theorem tickets_by_weight {γ : Type} {ticket : UInt64 → γ → UInt64 × γ}
    (lawful : ∀ total g, total ≠ 0 → (ticket total g).1 < total) {servers : List Server}
    (several : 2 ≤ servers.length) (fits : (fullWeights servers).sum < 2 ^ 64) (count : Nat)
    {p : List Nat} (distinct : p.Nodup) (within : ∀ i ∈ p, i < servers.length)
    (whole : p.length = min servers.length count) :
    ∃ ws, weights servers = .ok ws ∧ ByWeight ticket servers ws count p := by
  obtain ⟨ws, sum, weighs⟩ := weighs_of_fits fits
  have earlier (j : Nat) : (p.take j).Nodup := distinct.sublist (List.take_sublist j p)
  have listed (j : Nat) : ∀ i ∈ p.take j, i < servers.length := fun i member =>
    within i (List.mem_of_mem_take member)
  have narrow (j : Nat) := mass_rowAfter_lt weighs (earlier j) (listed j)
  have range (j : Nat) := mass_rowAfter weighs (earlier j) (listed j)
  refine ⟨ws, weighs.weights, ?goes, ?asks, ?stops, ?shares, fun i => weightAt_pos,
    order_of_words weighs several distinct within whole⟩
  case goes =>
    intro g
    obtain ⟨run, ordered, length, rounds⟩ := rounds_order weighs several lawful count g
    refine ⟨run, ordered, ?_, by rw [whole, rounds.length_eq, length]⟩
    rw [order_recorded weighs several count g [], ordered]
    rfl
  case asks =>
    intro j inside g run went same
    obtain ⟨again, ordered, length, rounds⟩ := rounds_order weighs several lawful count g
    cases went.symm.trans ordered
    rw [← whole] at length rounds
    obtain ⟨total, t, written, below, asked, selects⟩ :=
      rounds.at (distinct_fullPool weighs) (length.symm ▸ inside)
    rw [List.take_take, Nat.min_eq_left inside.le, same] at asked selects
    rw [List.getElem?_take_of_lt inside] at selects
    exact ⟨total, t, written, asked.trans (range j), below, selects⟩
  case stops =>
    intro j inside t below
    rw [← range j] at below
    exact stopsAt_position (narrow j) below
  case shares =>
    intro j inside
    obtain ⟨c, member, same, weight⟩ := mem_rowAfter weighs (earlier j) (listed j)
      (within _ (List.getElem_mem inside)) (not_mem_take distinct inside)
    rw [← range j, ← same,
      card_selected (distinct_rowAfter weighs (earlier j) (listed j)) (narrow j) member, weight,
      same]

-- The slower a server answered the less it weighs; the last one also failed once.
theorem tickets_of_three_servers :
    let server (id : Nat) (micros : UInt64) (failed : Bool) : Option Server :=
      (Server.build id { address := "a:80" } ⟨3, 1⟩ none).toOption.map fun s =>
        (s.recordOutcome false micros).recordOutcome failed micros
    let servers := [server 0 100 false, server 1 200 false, server 2 400 true].reduceOption
    fullWeights servers = [1200, 600, 200] ∧
      ∃ ws, weights servers = .ok ws ∧
        ((Finset.range 1800).filter fun t =>
          selected (rowAfter (fullPool ws) [2]) (.ofNat t) = some 0).card = 1200 ∧
        ∃ w drawn, order Words.below servers 5 w = .ok drawn ∧ drawn.1.take 3 = [2, 0, 1] := by
  intro server servers
  have facts : servers.length = 3 ∧ fullWeights servers = [1200, 600, 200] := by
    decide +kernel +revert
  obtain ⟨length, full⟩ := facts
  have fits : (fullWeights servers).sum < 2 ^ 64 := by
    rw [full]
    decide
  obtain ⟨ws, made, told⟩ := tickets_by_weight
    (fun _ w nonempty => Words.below_lt nonempty w) (by omega : 2 ≤ servers.length) fits 5
    (by decide : [2, 0, 1].Nodup) (by rw [length]; decide) (by rw [length]; rfl)
  have weight (i : Nat) : weightAt servers i = [1200, 600, 200].getD i 0 := by
    rw [weightAt, full]
  have range : rangeAfter servers [2] = 1800 := by
    rw [rangeAfter, length, List.map_congr_left fun i _ => weight i]
    decide
  have place : weightAt servers 0 = 1200 := weight 0
  refine ⟨full, ws, made, ?_, told.occurs⟩
  rw [← range, ← place]
  exact told.shares 1 (by decide)

end Weighted

end Balancing
