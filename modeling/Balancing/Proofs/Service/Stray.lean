import Balancing.Proofs.Service.Moment

namespace Balancing

-- Everything but the one counter that rescaling takes from.
def Server.apart (s : Server) : Server := { s with statsRequests := 0 }

theorem Server.apart_rescale (s : Server) : s.rescale.apart = s.apart := by
  unfold rescale
  split <;> rfl

namespace Service

variable {s : Service} {entry : Entry}

-- A static error leaves a trace on whatever it reaches: one more failure, or a suspension.
theorem release_error_ne {server : Server} (reached : s.serverOf? entry = some server)
    (now : Instant) (profile : String) (micros : UInt64) :
    s.release now profile entry true micros false ≠ (s, []) := by
  intro same
  have found := (serverOf?_eq_some_iff.mp reached).1
  obtain ⟨inside, _⟩ := List.getElem?_eq_some_iff.mp found
  rcases release_static reached now profile true micros with stays | ⟨p, _, _, leaves⟩
  · rw [stays] at same
    have servers := congrArg (fun after => after.1.servers[entry.index]?) same
    have written : (s.servers.set entry.index (server.release true))[entry.index]?
        = s.servers[entry.index]? := servers
    rw [List.getElem?_set_self inside, found] at written
    have fails : server.fails + 1 = server.fails := congrArg Server.fails (Option.some.inj written)
    simp at fails
  · rw [leaves] at same
    cases congrArg Prod.snd same

theorem release_same_iff (now : Instant) :
    (∀ profile isError micros adaptive,
      s.release now profile entry isError micros adaptive = (s, [])) ↔
      s.serverOf? entry = none := by
  constructor
  · intro dropped
    cases reached : s.serverOf? entry with
    | none => rfl
    | some server => exact absurd (dropped "" true 0 false) (release_error_ne reached now "" 0)
  · intro gone profile isError micros adaptive
    exact release_of_none gone ..

theorem serverOf?_eq_none_iff :
    s.serverOf? entry = none ↔ (s.servers.map (·.address))[entry.index]? ≠ some entry.address := by
  rw [List.getElem?_map]
  unfold serverOf?
  cases s.servers[entry.index]? with
  | none => simp
  | some server => simp

end Service

namespace Moment

-- An entry that the service gives out at this moment, and the server that it is given out for.
def Hands (m : Moment) (entry : Entry) (server : Server) : Prop :=
  m.service.servers[entry.index]? = some server ∧
  ((∃ excluded, (m.service.acquire m.clock excluded).1 = some entry) ∨
    ∃ (γ : Type) (ticket : UInt64 → γ → UInt64 × γ) (count : Nat) (g : γ),
      ∃ drawn, m.service.acquireAdaptive ticket count g = .ok drawn ∧ entry ∈ drawn.1)

theorem address_of_hands {m : Moment} {entry : Entry} {server : Server}
    (handed : m.Hands entry server) : entry.address = server.address := by
  obtain ⟨found, ⟨excluded, acquired⟩ | ⟨γ, ticket, count, g, drawn, went, member⟩⟩ := handed
  · have given : m.service.acquire m.clock excluded
        = (some entry, (m.service.acquire m.clock excluded).2) := Prod.ext acquired rfl
    obtain ⟨server', found', same, _⟩ := Service.acquire_some given
    rw [found] at found'
    cases found'
    exact congrArg Entry.address same
  · obtain ⟨server', found', same, _⟩ := Service.mem_acquireAdaptive went member
    rw [found] at found'
    cases found'
    exact congrArg Entry.address same

theorem outcome_after_replacement (name : String) (datacenter : Option String)
    (allowRemote : Bool) (windows : Windows) (clock : Instant) (earlier later : List Action)
    (entry : Entry) (server : Server)
    (handed : ((create name datacenter allowRemote windows clock).run earlier).Hands entry server)
    (gone : server.id ∉ (((create name datacenter allowRemote windows clock).run earlier).run
      later).service.servers.map (·.id)) :
    let m := ((create name datacenter allowRemote windows clock).run earlier).run later
    let s := m.service
    ((∀ profile isError micros adaptive,
        s.release m.clock profile entry isError micros adaptive = (s, [])) ↔
      (m.specs.map (·.address))[entry.index]? ≠ some server.address) ∧
    (∀ profile isError micros adaptive, ∀ i, i ≠ entry.index →
      ((s.release m.clock profile entry isError micros adaptive).1.servers.map Server.apart)[i]?
        = (s.servers.map Server.apart)[i]?) ∧
    ∀ other, s.servers[entry.index]? = some other → other.id ≠ server.id := by
  intro m s
  have listed : m.Listed := listed_run (listed_run (listed_create ..) earlier) later
  refine ⟨?_, ?_, ?_⟩
  · rw [Service.release_same_iff, Service.serverOf?_eq_none_iff, addresses_of_listed listed,
      address_of_hands handed]
  · intro profile isError micros adaptive i elsewhere
    exact Service.getElem?_release_of_ne Server.apart_rescale s _ _ _ _ _ elsewhere.symm
  · intro other found same
    exact gone (same ▸ List.mem_map_of_mem (List.mem_of_getElem? found))

theorem error_dropped_after_change_of_address :
    let start := create "shop" none false {} 0
    let m := start.run [.update .empty [{ address := "a:80" }]]
    let later := m.run [.acquire [], .update .empty [{ address := "b:80" }]]
    ∃ entry server, m.Hands entry server ∧
      server.id ∉ later.service.servers.map (·.id) ∧
      later.service.release later.clock "default" entry true 0 false = (later.service, []) := by
  intro start m later
  have given : (m.service.acquire m.clock []).1.map (·.index) = some 0 ∧
      m.service.servers.map (fun server => (server.id, server.address)) = [(0, "a:80")] := by
    decide +kernel +revert
  have replaced : later.service.servers.map (·.id) = [1] ∧
      later.specs.map (·.address) = ["b:80"] := by
    decide +kernel +revert
  obtain ⟨entry, acquired, index⟩ := Option.map_eq_some_iff.mp given.1
  have place : (m.service.servers.map fun server => (server.id, server.address))[0]?
      = some (0, "a:80") := by
    rw [given.2]
    rfl
  rw [List.getElem?_map] at place
  obtain ⟨server, found, names⟩ := Option.map_eq_some_iff.mp place
  obtain ⟨number, address⟩ := Prod.mk.inj names
  have handed : m.Hands entry server := ⟨index ▸ found, .inl ⟨[], acquired⟩⟩
  have gone : server.id ∉ later.service.servers.map (·.id) := by
    rw [replaced.1, number]
    decide
  have facts := outcome_after_replacement "shop" none false {} 0
    [.update .empty [{ address := "a:80" }]]
    [.acquire [], .update .empty [{ address := "b:80" }]] entry server handed gone
  refine ⟨entry, server, handed, gone, facts.1.mpr ?_ "default" true 0 false⟩
  show (later.specs.map (·.address))[entry.index]? ≠ some server.address
  rw [replaced.2, index, address]
  decide

-- Only the weight changes, so a new server stands at the old place with the old address. The error
-- of the old one takes it out of the rotation.
theorem error_suspends_reweighted_server :
    let m := (create "shop" none false {} 0).run [.update .empty [{ address := "a:80" }]]
    let later := m.run [.acquire [], .update .empty [{ address := "a:80", weight := 2 }]]
    let kept := fun s : Service =>
      s.servers.map fun server => (server.id, server.fails, server.active)
    kept m.service = [(0, 0, true)] ∧ kept later.service = [(1, 0, true)] ∧
      (m.service.acquire m.clock []).1.map (fun entry =>
        kept (later.service.release later.clock "default" entry true 0 false).1)
        = some [(1, 1, false)] := by
  decide +kernel

end Moment

end Balancing
