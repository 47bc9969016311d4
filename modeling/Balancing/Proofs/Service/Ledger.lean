import Balancing.Proofs.Service.Card
import Mathlib.Data.List.Perm.Basic

namespace Balancing

-- What an acquire handed out, with the identity of the server that it came from.
structure Loan where
  entry : Entry
  server : Nat
  deriving DecidableEq

structure Ledger where
  moment : Moment
  loans : List Loan := []
  -- the servers of all loans there ever were
  issued : List Nat := []
  -- the servers whose loan came back without reaching them
  lost : List Nat := []
  -- the servers that a loan of another one reached
  strayed : List Nat := []

-- A loan is given back once; reports of adaptive requests come for any entry, at any time.
inductive Deal where
  | lend (excluded : List Nat)
  | giveBack (k : Nat) (profile : String) (isError : Bool) (micros : UInt64)
  | report (profile : String) (entry : Entry) (isError : Bool) (micros : UInt64)
  | update (profiles : Profiles) (specs : List ServerSpec)
  | enable (enabled : Bool)
  | pass (nanoseconds : Nat)

namespace Ledger

def create (name : String) (datacenter : Option String) (allowRemote : Bool) (windows : Windows)
    (clock : Instant) : Ledger := { moment := .create name datacenter allowRemote windows clock }

def lent (m : Moment) (excluded : List Nat) : List Loan :=
  match (m.service.acquire m.clock excluded).1 with
  | none => []
  | some entry => m.service.servers[entry.index]?.toList.map fun server => ⟨entry, server.id⟩

-- The server that a loan given back now comes to.
def reached (l : Ledger) (loan : Loan) : Option Nat :=
  (l.moment.service.serverOf? loan.entry).map (·.id)

def giveBack (l : Ledger) (k : Nat) (loan : Loan) (profile : String) (isError : Bool)
    (micros : UInt64) : Ledger :=
  { l with
    moment := l.moment.after (.release profile loan.entry isError micros false)
    loans := l.loans.eraseIdx k
    lost := if l.reached loan = some loan.server then l.lost else loan.server :: l.lost
    strayed := if l.reached loan = some loan.server then l.strayed
      else (l.reached loan).toList ++ l.strayed }

def advance (l : Ledger) : Deal → Ledger
  | .lend excluded =>
    { l with
      moment := l.moment.after (.acquire excluded)
      loans := lent l.moment excluded ++ l.loans
      issued := (lent l.moment excluded).map (·.server) ++ l.issued }
  | .giveBack k profile isError micros =>
    match l.loans[k]? with
    | none => l
    | some loan => l.giveBack k loan profile isError micros
  | .report profile entry isError micros =>
    { l with moment := l.moment.after (.release profile entry isError micros true) }
  | .update profiles specs => { l with moment := l.moment.after (.update profiles specs) }
  | .enable enabled => { l with moment := l.moment.after (.enable enabled) }
  | .pass nanoseconds => { l with moment := l.moment.after (.pass nanoseconds) }

def run (l : Ledger) (deals : List Deal) : Ledger := deals.foldl advance l

def held (l : Ledger) (id : Nat) : Nat := l.loans.countP (·.server = id)

-- What a server's counter should show: its loans that are held, and those that came back elsewhere.
def owed (l : Ledger) (id : Nat) : Nat := l.held id + l.lost.count id

end Ledger

namespace Ledger

structure Sound (l : Ledger) : Prop where
  numbered : l.moment.service.Numbered
  known : ∀ id ∈ l.issued, id < l.moment.service.nextId
  covered : ∀ id, l.owed id ≤ l.issued.count id
  addressed : ∀ loan ∈ l.loans, ∀ card ∈ l.moment.service.cards, card.id = loan.server →
    card.address = loan.entry.address
  below : ∀ card ∈ l.moment.service.cards, card.requests.toNat ≤ l.owed card.id
  -- a counter holds every number below the wrap
  exact : ∀ card ∈ l.moment.service.cards, card.id ∉ l.strayed →
    l.issued.count card.id < UInt32.size → card.requests.toNat = l.owed card.id

variable {l : Ledger}

theorem sound_create (name : String) (datacenter : Option String) (allowRemote : Bool)
    (windows : Windows) (clock : Instant) :
    (create name datacenter allowRemote windows clock).Sound where
  numbered := Service.numbered_create ..
  known := by simp [create]
  covered := by simp [create, owed, held]
  addressed := by simp [create]
  below := by simp [create, Moment.create, Service.create, Service.cards]
  exact := by simp [create, Moment.create, Service.create, Service.cards]

theorem owed_eq_zero (sound : l.Sound) {id : Nat} (fresh : l.moment.service.nextId ≤ id) :
    l.owed id = 0 := by
  have none : l.issued.count id = 0 := by
    refine List.count_eq_zero.mpr fun old => ?_
    have := sound.known id old
    omega
  have := sound.covered id
  omega

theorem server_lt_nextId (sound : l.Sound) {loan : Loan} (taken : loan ∈ l.loans) :
    loan.server < l.moment.service.nextId := by
  refine Nat.lt_of_not_le fun fresh => ?_
  have nothing := owed_eq_zero sound fresh
  have some : 0 < l.held loan.server :=
    List.countP_pos_iff.mpr ⟨loan, taken, by simp⟩
  unfold owed at nothing
  omega

theorem countP_eraseIdx {loans : List Loan} {k : Nat} {loan : Loan}
    (found : loans[k]? = some loan) (p : Loan → Bool) :
    loans.countP p = (loans.eraseIdx k).countP p + if p loan then 1 else 0 := by
  obtain ⟨inside, there⟩ := List.getElem?_eq_some_iff.mp found
  have perm := List.getElem_cons_eraseIdx_perm inside
  rw [← perm.countP_eq, there, List.countP_cons]

theorem sound_same (sound : l.Sound) {m : Moment} (numbered : m.service.Numbered)
    (cards : m.service.cards = l.moment.service.cards)
    (next : m.service.nextId = l.moment.service.nextId) : Sound { l with moment := m } where
  numbered := numbered
  known id old := by
    rw [next]
    exact sound.known id old
  covered := sound.covered
  addressed loan taken card listed := by
    rw [cards] at listed
    exact sound.addressed loan taken card listed
  below card listed := by
    rw [cards] at listed
    exact sound.below card listed
  exact card listed := by
    rw [cards] at listed
    exact sound.exact card listed

def lend (l : Ledger) (m : Moment) (i : Nat) (server : Server) : Ledger :=
  { l with
    moment := m
    loans := ⟨.of i server, server.id⟩ :: l.loans
    issued := server.id :: l.issued }

theorem owed_lend (l : Ledger) (m : Moment) (i : Nat) (server : Server) :
    (l.lend m i server).owed server.id = l.owed server.id + 1 := by
  simp only [owed, held, lend, List.countP_cons, decide_true, if_true]
  omega

theorem owed_lend_of_ne (l : Ledger) (m : Moment) (i : Nat) {server : Server} {id : Nat}
    (other : id ≠ server.id) : (l.lend m i server).owed id = l.owed id := by
  simp [owed, held, lend, other.symm]

section

variable {m : Moment} {i : Nat} {server : Server}
  (found : l.moment.service.servers[i]? = some server)
  (cards : m.service.cards = l.moment.service.cards.set i server.card.lend)

include found cards

theorem mem_cards_lend (sound : l.Sound) {card : Card} (here : card ∈ m.service.cards) :
    card = server.card.lend ∨ card ∈ l.moment.service.cards ∧ card.id ≠ server.id := by
  rw [cards] at here
  exact Service.mem_set_cards sound.numbered (Service.getElem?_cards found) here

theorem addressed_lend (sound : l.Sound) {loan : Loan} (taken : loan ∈ (l.lend m i server).loans)
    {card : Card} (here : card ∈ m.service.cards) (same : card.id = loan.server) :
    card.address = loan.entry.address := by
  have listed := List.mem_of_getElem? (Service.getElem?_cards found)
  rcases mem_cards_lend found cards sound here with rfl | ⟨old, other⟩
  · rcases List.mem_cons.mp taken with rfl | taken
    · rfl
    · exact sound.addressed loan taken server.card listed same
  · rcases List.mem_cons.mp taken with rfl | taken
    · exact absurd same other
    · exact sound.addressed loan taken card old same

theorem below_lend (sound : l.Sound) {card : Card} (here : card ∈ m.service.cards) :
    card.requests.toNat ≤ (l.lend m i server).owed card.id := by
  have listed := List.mem_of_getElem? (Service.getElem?_cards found)
  rcases mem_cards_lend found cards sound here with rfl | ⟨old, other⟩
  · have before := sound.below server.card listed
    have grown := server.card.toNat_lend_le
    show _ ≤ (l.lend m i server).owed server.id
    rw [owed_lend]
    exact Nat.le_trans grown (Nat.succ_le_succ before)
  · rw [owed_lend_of_ne l m i other]
    exact sound.below card old

theorem exact_lend (sound : l.Sound) {card : Card} (here : card ∈ m.service.cards)
    (clean : card.id ∉ l.strayed) (few : (server.id :: l.issued).count card.id < UInt32.size) :
    card.requests.toNat = (l.lend m i server).owed card.id := by
  have listed := List.mem_of_getElem? (Service.getElem?_cards found)
  rcases mem_cards_lend found cards sound here with rfl | ⟨old, other⟩
  · have few : l.issued.count server.id + 1 < UInt32.size := by
      rw [← List.count_cons_self]
      exact few
    have before := sound.exact server.card listed clean (Nat.lt_of_succ_lt few)
    have covered : l.owed server.card.id ≤ _ := sound.covered server.id
    have room : server.card.requests.toNat + 1 < UInt32.size := by
      rw [before]
      exact Nat.lt_of_le_of_lt (Nat.succ_le_succ covered) few
    show _ = (l.lend m i server).owed server.id
    rw [owed_lend, Card.toNat_lend room, before]
    rfl
  · rw [List.count_cons_of_ne (Ne.symm other)] at few
    rw [owed_lend_of_ne l m i other]
    exact sound.exact card old clean few

theorem sound_lend (sound : l.Sound) (numbered : m.service.Numbered)
    (next : m.service.nextId = l.moment.service.nextId) : (l.lend m i server).Sound := by
  constructor
  · exact numbered
  · intro id old
    show id < m.service.nextId
    rw [next]
    rcases List.mem_cons.mp old with rfl | old
    · have listed := List.mem_of_getElem? found
      exact sound.numbered.lt _ (List.mem_append_left _ (List.mem_map_of_mem listed))
    · exact sound.known id old
  · intro id
    show _ ≤ (server.id :: l.issued).count id
    have before := sound.covered id
    by_cases same : id = server.id
    · subst same
      rw [owed_lend, List.count_cons_self]
      omega
    · rw [owed_lend_of_ne l m i same, List.count_cons_of_ne (Ne.symm same)]
      exact before
  · intro loan taken card here same
    exact addressed_lend found cards sound taken here same
  · intro card here
    exact below_lend found cards sound here
  · intro card here clean few
    exact exact_lend found cards sound here clean few

end

section

variable {k : Nat} {loan : Loan} (found : l.loans[k]? = some loan) (profile : String)
  (isError : Bool) (micros : UInt64)

include found

theorem owed_giveBack_of_reached
    (reached : l.reached loan = some loan.server) (id : Nat) :
    l.owed id = (l.giveBack k loan profile isError micros).owed id
      + if loan.server = id then 1 else 0 := by
  have held := countP_eraseIdx found (·.server = id)
  simp only [decide_eq_true_eq] at held
  simp only [owed, Ledger.held, giveBack, if_pos reached, held]
  omega

theorem owed_giveBack_of_lost
    (elsewhere : l.reached loan ≠ some loan.server)
    (id : Nat) : (l.giveBack k loan profile isError micros).owed id = l.owed id := by
  have held := countP_eraseIdx found (·.server = id)
  simp only [decide_eq_true_eq] at held
  simp only [owed, Ledger.held, giveBack, if_neg elsewhere, held, List.count_cons, beq_iff_eq]
  omega

theorem owed_giveBack_le (id : Nat) :
    (l.giveBack k loan profile isError micros).owed id ≤ l.owed id := by
  by_cases reached : l.reached loan = some loan.server
  · rw [owed_giveBack_of_reached found profile isError micros reached id]
    exact Nat.le_add_right ..
  · exact Nat.le_of_eq (owed_giveBack_of_lost found profile isError micros reached id)

end

-- The servers after a release: those it did not reach, as they were, and the one it reached.
theorem mem_cards_giveBack (sound : l.Sound) {k : Nat} {loan : Loan} {profile : String}
    {isError : Bool} {micros : UInt64} {card : Card}
    (here : card ∈ (l.giveBack k loan profile isError micros).moment.service.cards) :
    (card ∈ l.moment.service.cards ∧
      l.reached loan ≠ some card.id) ∨
    ∃ server, l.moment.service.serverOf? loan.entry = some server ∧
      server.card ∈ l.moment.service.cards ∧ card = server.card.settle := by
  cases reached : l.moment.service.serverOf? loan.entry with
  | none =>
    have same : (l.giveBack k loan profile isError micros).moment.service = l.moment.service := by
      show (l.moment.service.release ..).1 = _
      rw [Service.release_of_none reached]
    rw [same] at here
    exact .inl ⟨here, by simp [Ledger.reached, reached]⟩
  | some server =>
    have hit : l.reached loan = some server.id := by
      unfold Ledger.reached
      rw [reached]
      rfl
    have found := (Service.serverOf?_eq_some_iff.mp reached).1
    have place := Service.getElem?_cards found
    have cards : (l.giveBack k loan profile isError micros).moment.service.cards
        = l.moment.service.cards.set loan.entry.index server.card.settle :=
      Service.cards_release_static reached ..
    rw [cards] at here
    rcases Service.mem_set_cards sound.numbered place here with rfl | ⟨old, other⟩
    · exact .inr ⟨server, rfl, List.mem_of_getElem? place, rfl⟩
    · exact .inl ⟨old, fun same => other (Option.some.inj (hit.symm.trans same)).symm⟩

section

variable {k : Nat} {loan : Loan} (sound : l.Sound) (found : l.loans[k]? = some loan)
  {profile : String} {isError : Bool} {micros : UInt64} {card : Card}
  (here : card ∈ (l.giveBack k loan profile isError micros).moment.service.cards)

include sound found here

theorem below_giveBack :
    card.requests.toNat ≤ (l.giveBack k loan profile isError micros).owed card.id := by
  rcases mem_cards_giveBack sound here with ⟨old, missed⟩ | ⟨server, _, listed, rfl⟩
  · have before := sound.below card old
    by_cases own : l.reached loan = some loan.server
    · have after := owed_giveBack_of_reached found profile isError micros own card.id
      have other : loan.server ≠ card.id := fun same => missed (same ▸ own)
      rw [if_neg other] at after
      omega
    · rw [owed_giveBack_of_lost found profile isError micros own]
      exact before
  · have before := sound.below server.card listed
    show server.card.settle.requests.toNat ≤ (l.giveBack ..).owed server.card.id
    rw [Card.toNat_settle]
    by_cases own : l.reached loan = some loan.server
    · have after := owed_giveBack_of_reached found profile isError micros own server.card.id
      split at after <;> omega
    · rw [owed_giveBack_of_lost found profile isError micros own]
      omega

theorem exact_giveBack_of_reached (own : l.reached loan = some loan.server)
    (clean : card.id ∉ l.strayed) (few : l.issued.count card.id < UInt32.size) :
    card.requests.toNat = (l.giveBack k loan profile isError micros).owed card.id := by
  have after := owed_giveBack_of_reached found profile isError micros own card.id
  rcases mem_cards_giveBack sound here with ⟨old, missed⟩ | ⟨server, reached, listed, rfl⟩
  · have before := sound.exact card old clean few
    have other : loan.server ≠ card.id := fun same => missed (same ▸ own)
    rw [if_neg other] at after
    omega
  · have before := sound.exact server.card listed clean few
    have same : loan.server = server.card.settle.id := by
      unfold Ledger.reached at own
      rw [reached] at own
      exact (Option.some.inj own).symm
    rw [if_pos same] at after
    rw [Card.toNat_settle, before]
    exact Nat.sub_eq_of_eq_add after

-- A server that such a loan reached has no exact counter from then on.
theorem exact_giveBack_of_lost (elsewhere : l.reached loan ≠ some loan.server)
    (clean : card.id ∉ (l.reached loan).toList ++ l.strayed)
    (few : l.issued.count card.id < UInt32.size) :
    card.requests.toNat = (l.giveBack k loan profile isError micros).owed card.id := by
  rw [owed_giveBack_of_lost found profile isError micros elsewhere]
  rw [List.mem_append, not_or] at clean
  rcases mem_cards_giveBack sound here with ⟨old, _⟩ | ⟨server, reached, _, rfl⟩
  · exact sound.exact card old clean.2 few
  · unfold Ledger.reached at clean
    rw [reached] at clean
    exact absurd (List.mem_singleton_self server.id) clean.1

end

theorem sound_giveBack (sound : l.Sound) {k : Nat} {loan : Loan}
    (found : l.loans[k]? = some loan) (profile : String) (isError : Bool) (micros : UInt64) :
    (l.giveBack k loan profile isError micros).Sound := by
  constructor
  · exact Moment.numbered_after sound.numbered _
  · intro id old
    have next : (l.giveBack k loan profile isError micros).moment.service.nextId
        = l.moment.service.nextId := (Service.retired_release ..).2
    rw [next]
    exact sound.known id old
  · intro id
    exact Nat.le_trans (owed_giveBack_le found ..) (sound.covered id)
  · intro other taken card here same
    have taken := List.mem_of_mem_eraseIdx taken
    rcases mem_cards_giveBack sound here with ⟨old, _⟩ | ⟨server, _, listed, rfl⟩
    · exact sound.addressed other taken card old same
    · exact sound.addressed other taken server.card listed same
  · intro card here
    exact below_giveBack sound found here
  · intro card here clean few
    by_cases own : l.reached loan = some loan.server
    · have unstrayed : (l.giveBack k loan profile isError micros).strayed = l.strayed := if_pos own
      rw [unstrayed] at clean
      exact exact_giveBack_of_reached sound found here own clean few
    · have strayed : (l.giveBack k loan profile isError micros).strayed
          = (l.reached loan).toList ++ l.strayed := if_neg own
      rw [strayed] at clean
      exact exact_giveBack_of_lost sound found here own clean few

theorem sound_update (sound : l.Sound) {profiles : Profiles} {specs : List ServerSpec}
    {service : Service}
    (updated : l.moment.service.update l.moment.clock profiles specs = .ok service) :
    Sound { l with moment := { l.moment with service, specs } } := by
  have next : l.moment.service.nextId ≤ service.nextId := by
    obtain ⟨count, _, next⟩ := Service.ids_update updated
    omega
  constructor
  · exact Service.numbered_update sound.numbered updated
  · intro id old
    exact Nat.lt_of_lt_of_le (sound.known id old) next
  · exact sound.covered
  · intro loan taken card here same
    rcases Service.mem_cards_update updated here with old | ⟨fresh, _⟩
    · exact sound.addressed loan taken card old same
    · have := server_lt_nextId sound taken
      omega
  · intro card here
    rcases Service.mem_cards_update updated here with old | ⟨_, zero⟩
    · exact sound.below card old
    · rw [zero]
      exact Nat.zero_le _
  · intro card here clean few
    rcases Service.mem_cards_update updated here with old | ⟨fresh, zero⟩
    · exact sound.exact card old clean few
    · rw [zero]
      exact (owed_eq_zero sound fresh).symm

theorem sound_advance_lend (sound : l.Sound) (excluded : List Nat) :
    (l.advance (.lend excluded)).Sound := by
  unfold advance
  dsimp only
  rcases Service.acquire_cases l.moment.service l.moment.clock excluded with
    nothing | ⟨i, server, found, given⟩
  · have none : lent l.moment excluded = [] := by
      unfold lent
      rw [nothing]
    rw [none]
    refine sound_same sound (Moment.numbered_after sound.numbered _) ?_ ?_
    · show (l.moment.service.acquire ..).2.cards = _
      rw [nothing]
    · exact (Service.retired_acquire ..).2
  · have one : lent l.moment excluded = [⟨.of i server, server.id⟩] := by
      unfold lent
      rw [given]
      show (l.moment.service.servers[i]?.toList.map _) = _
      rw [found]
      rfl
    rw [one]
    refine sound_lend found ?_ sound (Moment.numbered_after sound.numbered _) ?_
    · show (l.moment.service.acquire ..).2.cards = _
      rw [given]
      exact Service.cards_acquired i server
    · exact (Service.retired_acquire ..).2

theorem sound_advance (sound : l.Sound) (deal : Deal) : (l.advance deal).Sound := by
  cases deal with
  | lend excluded => exact sound_advance_lend sound excluded
  | giveBack k profile isError micros =>
    unfold advance
    dsimp only
    split
    · exact sound
    · exact sound_giveBack sound ‹_› profile isError micros
  | report profile entry isError micros =>
    refine sound_same sound (Moment.numbered_after sound.numbered _) ?_ ?_
    · exact Service.cards_release_adaptive ..
    · exact (Service.retired_release ..).2
  | update profiles specs =>
    unfold advance Moment.after
    dsimp only
    split
    · exact sound_update sound ‹_›
    · exact sound
  | enable enabled => exact sound_same sound (Moment.numbered_after sound.numbered _) rfl rfl
  | pass nanoseconds =>
    refine sound_same sound (Moment.numbered_after sound.numbered _) ?_ ?_
    · exact Service.cards_wake ..
    · exact Service.nextId_wake ..

theorem sound_run (sound : l.Sound) (deals : List Deal) : (l.run deals).Sound := by
  induction deals generalizing l with
  | nil => exact sound
  | cons deal deals ih => exact ih (sound_advance sound deal)

-- A loan that comes back counts its own server down where that still has its place, and only there.
theorem release_in_place (sound : l.Sound) {loan : Loan} (taken : loan ∈ l.loans)
    {server : Server} (listed : server ∈ l.moment.service.servers) (own : server.id = loan.server)
    (profile : String) (isError : Bool) (micros : UInt64) :
    let s := l.moment.service
    ∃ server' ∈ (s.release l.moment.clock profile loan.entry isError micros false).1.servers,
      server'.id = server.id ∧ server'.requests.toNat = server.requests.toNat
        - if s.servers[loan.entry.index]? = some server then 1 else 0 := by
  intro s
  have carded : server.card ∈ s.cards := List.mem_map_of_mem listed
  have address := sound.addressed loan taken server.card carded own
  by_cases here : s.servers[loan.entry.index]? = some server
  · have reached : s.serverOf? loan.entry = some server :=
      Service.serverOf?_eq_some_iff.mpr ⟨here, address⟩
    have cards := Service.cards_release_static reached l.moment.clock profile isError micros
    obtain ⟨inside, _⟩ := List.getElem?_eq_some_iff.mp (Service.getElem?_cards here)
    have written := List.mem_set inside server.card.settle
    rw [← cards] at written
    obtain ⟨server', listed', same⟩ := List.mem_map.mp written
    refine ⟨server', listed', congrArg Card.id same, ?_⟩
    rw [if_pos here]
    have counted := congrArg (fun card : Card => card.requests.toNat) same
    exact counted.trans server.card.toNat_settle
  · have kept : server.card ∈
        (s.release l.moment.clock profile loan.entry isError micros false).1.cards := by
      cases reached : s.serverOf? loan.entry with
      | none =>
        rw [Service.release_of_none reached]
        exact carded
      | some other =>
        have found := (Service.serverOf?_eq_some_iff.mp reached).1
        obtain ⟨j, place⟩ := List.mem_iff_getElem?.mp listed
        have elsewhere : loan.entry.index ≠ j := by
          rintro rfl
          exact here place
        rw [Service.cards_release_static reached]
        refine List.mem_iff_getElem?.mpr ⟨j, ?_⟩
        rw [List.getElem?_set_ne elsewhere]
        exact Service.getElem?_cards place
    obtain ⟨server', listed', same⟩ := List.mem_map.mp kept
    refine ⟨server', listed', congrArg Card.id same, ?_⟩
    rw [if_neg here, Nat.sub_zero]
    exact congrArg (fun card : Card => card.requests.toNat) same

theorem counters_against_loans (name : String) (datacenter : Option String) (allowRemote : Bool)
    (windows : Windows) (clock : Instant) (deals : List Deal) :
    let l := (create name datacenter allowRemote windows clock).run deals
    let s := l.moment.service
    (∀ loan ∈ l.loans, ∀ server ∈ s.servers, server.id = loan.server →
      ∀ profile isError micros,
        ∃ server' ∈ (s.release l.moment.clock profile loan.entry isError micros false).1.servers,
          server'.id = server.id ∧ server'.requests.toNat = server.requests.toNat
            - if s.servers[loan.entry.index]? = some server then 1 else 0) ∧
    (∀ server ∈ s.servers, server.id ∉ l.strayed → l.issued.count server.id < UInt32.size →
      server.requests.toNat = l.owed server.id) ∧
    (l.loans = [] → ∀ server ∈ s.servers, server.id ∉ l.lost → server.requests = 0) := by
  intro l s
  have sound : l.Sound := sound_run (sound_create ..) deals
  refine ⟨?_, ?_, ?_⟩
  · intro loan taken server listed own profile isError micros
    exact release_in_place sound taken listed own profile isError micros
  · intro server listed clean few
    exact sound.exact server.card (List.mem_map_of_mem listed) clean few
  · intro settled server listed clean
    have below := sound.below server.card (List.mem_map_of_mem listed)
    have nothing : l.owed server.card.id = 0 := by
      show l.loans.countP _ + l.lost.count server.id = 0
      rw [settled, List.count_eq_zero.mpr clean]
      rfl
    rw [nothing] at below
    exact UInt32.toNat_inj.mp (Nat.le_zero.mp below)

theorem request_counted_off_in_place :
    let deals : List Deal := [.update .empty [{ address := "a:80" }], .lend [],
      .update .empty [{ address := "a:80" }, { address := "b:80" }]]
    let l := (create "shop" none false {} 0).run deals
    let s := l.moment.service
    let settled := (create "shop" none false {} 0).run (deals ++ [.giveBack 0 "default" false 0])
    (∃ loan ∈ l.loans, ∃ server ∈ s.servers, server.id = loan.server ∧
      server.requests.toNat = l.owed server.id ∧
      ∃ server' ∈ (s.release l.moment.clock "default" loan.entry false 0 false).1.servers,
        server'.id = server.id ∧ server'.requests.toNat = server.requests.toNat - 1) ∧
    settled.loans = [] ∧ ∀ server ∈ settled.moment.service.servers, server.requests = 0 := by
  intro deals l s settled
  have books : l.strayed = [] ∧ l.issued = [0] ∧
      l.loans.map (fun loan => (loan.entry.index, loan.server)) = [(0, 0)] ∧
      s.servers.map (·.id) = [0, 1] := by
    decide +kernel +revert
  have back : settled.loans = [] ∧ settled.lost = [] := by
    decide +kernel +revert
  obtain ⟨strayed, issued, loans, servers⟩ := books
  constructor
  · have before := counters_against_loans "shop" none false {} 0 deals
    have first : (0, 0) ∈ l.loans.map (fun loan => (loan.entry.index, loan.server)) := by
      rw [loans]
      exact List.mem_singleton_self _
    obtain ⟨loan, taken, names⟩ := List.mem_map.mp first
    have there : (s.servers.map (·.id))[0]? = some 0 := by
      rw [servers]
      rfl
    rw [List.getElem?_map] at there
    obtain ⟨server, place, number⟩ := Option.map_eq_some_iff.mp there
    have listed := List.mem_of_getElem? place
    obtain ⟨index, lender⟩ := Prod.mk.inj names
    have own : server.id = loan.server := number.trans lender.symm
    obtain ⟨server', listed', same, off⟩ := before.1 loan taken server listed own "default" false 0
    rw [index, if_pos place] at off
    have counted := before.2.1 server listed (strayed ▸ List.not_mem_nil) (by
      rw [issued, number]
      decide)
    exact ⟨loan, taken, server, listed, own, counted, server', listed', same, off⟩
  · have after := counters_against_loans "shop" none false {} 0
      (deals ++ [.giveBack 0 "default" false 0])
    refine ⟨back.1, fun server listed => after.2.2 back.1 server listed ?_⟩
    exact back.2 ▸ List.not_mem_nil

-- Two servers change places while a request is on the first; nothing has been replaced.
def swapped : List Deal :=
  let a : ServerSpec := { address := "a:80" }
  let b : ServerSpec := { address := "b:80" }
  [.update .empty [a, b], .lend [], .update .empty [b, a]]

theorem request_stays_on_moved_server :
    let l := (create "shop" none false {} 0).run (swapped ++ [.giveBack 0 "default" false 0])
    l.loans = [] ∧ l.moment.service.retired = [] ∧
      l.moment.service.cards = [⟨1, "b:80", 0⟩, ⟨0, "a:80", 1⟩] := by
  decide +kernel

end Ledger

end Balancing
