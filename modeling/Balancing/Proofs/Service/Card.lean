import Balancing.Proofs.Service.Moment

namespace Balancing

structure Card where
  id : Nat
  address : String
  requests : UInt32
  deriving DecidableEq

def Server.card (s : Server) : Card := ⟨s.id, s.address, s.requests⟩

theorem Server.steady_card : Steady card where
  rescale s := by
    unfold rescale
    split <;> rfl
  activate _ := rfl
  deactivate _ := rfl

namespace Card

def lend (c : Card) : Card := { c with requests := c.requests + 1 }

def settle (c : Card) : Card :=
  { c with requests := if c.requests = 0 then 0 else c.requests - 1 }

theorem toNat_lend_le (c : Card) : c.lend.requests.toNat ≤ c.requests.toNat + 1 := by
  show (c.requests + 1).toNat ≤ _
  rw [UInt32.toNat_add]
  exact Nat.mod_le ..

theorem toNat_lend {c : Card} (room : c.requests.toNat + 1 < UInt32.size) :
    c.lend.requests.toNat = c.requests.toNat + 1 := by
  show (c.requests + 1).toNat = _
  rw [UInt32.toNat_add]
  exact Nat.mod_eq_of_lt room

theorem toNat_settle (c : Card) : c.settle.requests.toNat = c.requests.toNat - 1 :=
  toNat_countedOff c.requests

end Card

namespace Service

def cards (s : Service) : List Card := s.servers.map Server.card

variable {s s' : Service}

theorem map_id_cards (s : Service) : s.cards.map (·.id) = s.servers.map (·.id) := by
  rw [cards, List.map_map]
  rfl

theorem getElem?_cards {i : Nat} {server : Server} (found : s.servers[i]? = some server) :
    s.cards[i]? = some server.card := by
  rw [cards, List.getElem?_map, found]
  rfl

theorem cards_acquired (i : Nat) (server : Server) :
    (s.setServer i server.acquire).rescale.cards = s.cards.set i server.card.lend := by
  unfold cards
  rw [map_acquired Server.steady_card.rescale]
  rfl

theorem cards_release_static {entry : Entry} {server : Server}
    (reached : s.serverOf? entry = some server) (now : Instant) (profile : String)
    (isError : Bool) (micros : UInt64) :
    (s.release now profile entry isError micros false).1.cards
      = s.cards.set entry.index server.card.settle := by
  unfold cards
  rw [map_release_static Server.steady_card reached]
  rfl

theorem cards_release_adaptive (now : Instant) (profile : String) (entry : Entry)
    (isError : Bool) (micros : UInt64) :
    (s.release now profile entry isError micros true).1.cards = s.cards := by
  refine map_release_adaptive (fun server isError micros => ?_) ..
  unfold Server.recordOutcome
  split <;> rfl

theorem cards_wake (now : Instant) : (s.wake now).cards = s.cards :=
  map_wake Server.steady_card.activate s now

-- After an update a server is one of the old ones, as it was, or a new one nobody has a loan of.
theorem mem_cards_update {now : Instant} {profiles : Profiles} {specs : List ServerSpec}
    (updated : s.update now profiles specs = .ok s') {card : Card} (member : card ∈ s'.cards) :
    card ∈ s.cards ∨ s.nextId ≤ card.id ∧ card.requests = 0 := by
  obtain ⟨r, slowStart, made, rfl⟩ := update_ok updated
  obtain ⟨fresh, perm, numbers, _, new⟩ := roster_perm made
  obtain ⟨server, listed, rfl⟩ := List.mem_map.mp member
  have somewhere := perm.mem_iff.mp (List.mem_append_left r.left listed)
  rcases List.mem_append.mp somewhere with old | added
  · exact .inl (List.mem_map_of_mem old)
  · right
    have number : server.id ∈ fresh.map (·.id) := List.mem_map_of_mem added
    rw [numbers] at number
    exact ⟨(List.mem_range'_1.mp number).1, (new server added).requests⟩

-- Cards outside the written place belong to other servers.
theorem mem_set_cards (numbered : s.Numbered) {i : Nat} {old new card : Card}
    (found : s.cards[i]? = some old) (member : card ∈ s.cards.set i new) :
    card = new ∨ card ∈ s.cards ∧ card.id ≠ old.id := by
  have nodup := (List.nodup_append.mp numbered.nodup).1
  rw [← map_id_cards] at nodup
  exact mem_set_of_nodup nodup found member

end Service

end Balancing
