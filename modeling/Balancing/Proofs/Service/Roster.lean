import Balancing.Proofs.Service.Frame
import Mathlib.Data.List.Forall2

namespace Balancing

-- How every server begins.
structure Server.IsNew (s : Server) : Prop where
  active : s.active = true
  requests : s.requests = 0
  statsRequests : s.statsRequests = 0
  fails : s.fails = 0

theorem Server.origin_of_build {id : Nat} {spec : ServerSpec} {windows : Windows}
    {slowStart : Option SlowStart} {s : Server} (built : build id spec windows slowStart = .ok s) :
    ∃ endpoint, Endpoint.parse? spec.address = some endpoint ∧
      s.origin = ⟨id, spec.address, endpoint, atLeastOne spec.weight, spec.rack,
        spec.datacenter.map Text.lowercase, slowStart⟩ ∧ s.IsNew := by
  unfold build at built
  split at built
  · cases built
  · rename_i endpoint parsed
    dsimp only at built
    split at built
    · cases built
    · split at built
      · cases built
      · cases built
        exact ⟨endpoint, parsed, rfl, rfl, rfl, rfl, rfl⟩

theorem Server.build_ok {id : Nat} {spec : ServerSpec} {windows : Windows}
    {slowStart : Option SlowStart} {s : Server} (built : build id spec windows slowStart = .ok s) :
    s.id = id ∧ s.isOf spec ∧ s.IsNew := by
  obtain ⟨endpoint, _, origin, new⟩ := origin_of_build built
  simp only [Server.origin, Origin.mk.injEq] at origin
  obtain ⟨same, address, _, weight, rack, datacenter, _⟩ := origin
  exact ⟨same, by simp [isOf, address, weight, rack, datacenter], new⟩

theorem Server.slowStart_of_build {id : Nat} {spec : ServerSpec} {windows : Windows}
    {slowStart : Option SlowStart} {s : Server} (built : build id spec windows slowStart = .ok s) :
    s.slowStart = slowStart := by
  obtain ⟨endpoint, _, origin, _⟩ := origin_of_build built
  exact congrArg (·.slowStart) origin

-- A server as `build` makes it.
structure Server.IsFresh (windows : Windows) (slowStart : Option SlowStart) (s : Server) : Prop
    extends s.IsNew where
  slow : s.slowStart = slowStart
  errors : ErrorWindow.withLivePercent windows.errors
    (if slowStart.isSome then slowStartLivePercent else 100) = .ok s.errors
  latencies : LatencyWindow.empty windows.latencies = .ok s.latencies

theorem Server.isFresh_of_build {id : Nat} {spec : ServerSpec} {windows : Windows}
    {slowStart : Option SlowStart} {s : Server} (built : build id spec windows slowStart = .ok s) :
    s.IsFresh windows slowStart := by
  unfold build at built
  split at built
  · cases built
  · dsimp only at built
    split at built
    · cases built
    · rename_i errors healthy
      split at built
      · cases built
      · rename_i latencies empty
        cases built
        exact ⟨⟨rfl, rfl, rfl, rfl⟩, rfl, healthy, empty⟩

theorem Server.toNat_atLeastOne (weight : UInt32) :
    (atLeastOne weight).toNat = max weight.toNat 1 := by
  unfold atLeastOne
  split
  · rename_i zero
    rw [zero]
    rfl
  · rename_i positive
    have positive : weight.toNat ≠ 0 := fun zero => positive (UInt32.toNat_inj.mp zero)
    omega

theorem Server.weight_of_isOf {server : Server} {spec : ServerSpec} (fits : server.isOf spec) :
    server.weight.toNat = max spec.weight.toNat 1 := by
  simp only [Server.isOf, Bool.and_eq_true, decide_eq_true_eq] at fits
  rw [fits.1.1.2, toNat_atLeastOne]

namespace Service

section

variable {α : Type} {p : α → Bool} {a : α} {l rest : List α}

theorem takeFirst_head (first : p a) : takeFirst p (a :: l) = some (a, l) := by
  rw [takeFirst, if_pos first]

theorem takeFirst_spec (taken : takeFirst p l = some (a, rest)) : p a ∧ l.Perm (a :: rest) := by
  induction l generalizing rest with
  | nil => cases taken
  | cons b l ih =>
    rw [takeFirst] at taken
    split at taken
    · rename_i passes
      cases taken
      exact ⟨passes, .refl _⟩
    · obtain ⟨⟨found, others⟩, later, same⟩ := Option.map_eq_some_iff.mp taken
      cases same
      obtain ⟨passes, perm⟩ := ih later
      exact ⟨passes, (perm.cons b).trans (.swap ..)⟩

end

variable {windows : Windows} {slowStart : Option SlowStart} {free : List Server} {nextId : Nat}
  {spec : ServerSpec} {specs : List ServerSpec} {r : Roster}

-- The first descriptor is either met by a free server or built; the rest goes on without it.
theorem roster_cons (made : roster windows slowStart free nextId (spec :: specs) = .ok r) :
    (∃ s rest r', takeFirst (·.isOf spec) free = some (s, rest) ∧
      roster windows slowStart rest nextId specs = .ok r' ∧
      r = { r' with servers := s :: r'.servers }) ∨
    ∃ s r', Server.build nextId spec windows slowStart = .ok s ∧
      roster windows slowStart free (nextId + 1) specs = .ok r' ∧
      r = { r' with servers := s :: r'.servers } := by
  rw [roster] at made
  split at made
  · rename_i s rest taken
    obtain ⟨r', later, same⟩ := bind_ok_iff.mp made
    cases same
    exact .inl ⟨s, rest, r', taken, later, rfl⟩
  · obtain ⟨s, built, made⟩ := bind_ok_iff.mp made
    obtain ⟨r', later, same⟩ := bind_ok_iff.mp made
    cases same
    exact .inr ⟨s, r', built, later, rfl⟩

theorem roster_perm (made : roster windows slowStart free nextId specs = .ok r) :
    ∃ fresh, (r.servers ++ r.left).Perm (free ++ fresh) ∧
      fresh.map (·.id) = List.range' nextId fresh.length ∧
      r.nextId = nextId + fresh.length ∧ ∀ s ∈ fresh, s.IsNew := by
  induction specs generalizing free nextId r with
  | nil =>
    rw [roster] at made
    cases made
    exact ⟨[], by simp, rfl, rfl, by simp⟩
  | cons spec specs ih =>
    rcases roster_cons made with ⟨s, rest, r', taken, later, rfl⟩ | ⟨s, r', built, later, rfl⟩
    · obtain ⟨fresh, perm, ids, next, new⟩ := ih later
      refine ⟨fresh, ?_, ids, next, new⟩
      exact (perm.cons s).trans ((takeFirst_spec taken).2.symm.append_right fresh)
    · obtain ⟨fresh, perm, ids, next, new⟩ := ih later
      obtain ⟨id, _, isNew⟩ := Server.build_ok built
      refine ⟨s :: fresh, ?_, ?_, ?_, ?_⟩
      · exact (perm.cons s).trans List.perm_middle.symm
      · rw [List.map_cons, List.length_cons, List.range'_succ, id, ids]
      · rw [List.length_cons, next]
        omega
      · intro t member
        rcases List.mem_cons.mp member with rfl | old
        · exact isNew
        · exact new t old

theorem roster_isOf (made : roster windows slowStart free nextId specs = .ok r) :
    List.Forall₂ (fun s spec => s.isOf spec = true) r.servers specs := by
  induction specs generalizing free nextId r with
  | nil =>
    rw [roster] at made
    cases made
    exact .nil
  | cons spec specs ih =>
    rcases roster_cons made with ⟨s, rest, r', taken, later, rfl⟩ | ⟨s, r', built, later, rfl⟩
    · exact .cons (takeFirst_spec taken).1 (ih later)
    · exact .cons (Server.build_ok built).2.1 (ih later)

-- What fits a descriptor is settled by what the servers are built with.
theorem fit_congr {servers servers' : List Server}
    (same : servers'.map Server.isOf = servers.map Server.isOf)
    (fit : List.Forall₂ (fun s spec => s.isOf spec = true) servers specs) :
    List.Forall₂ (fun s spec => s.isOf spec = true) servers' specs := by
  have mapped : List.Forall₂ (fun isOf spec => isOf spec = true) (servers.map Server.isOf) specs :=
    List.forall₂_map_left_iff.mpr fit
  rw [← same] at mapped
  exact List.forall₂_map_left_iff.mp mapped

-- Nothing to carry over: all servers are new.
theorem roster_built (made : roster windows slowStart [] nextId specs = .ok r) :
    ∀ s ∈ r.servers, s.IsNew ∧ s.slowStart = slowStart := by
  induction specs generalizing nextId r with
  | nil =>
    rw [roster] at made
    cases made
    simp
  | cons spec specs ih =>
    rcases roster_cons made with ⟨s, rest, r', taken, _, _⟩ | ⟨s, r', built, later, rfl⟩
    · cases taken
    · intro t member
      rcases List.mem_cons.mp member with rfl | old
      · exact ⟨(Server.build_ok built).2.2, Server.slowStart_of_build built⟩
      · exact ih later t old

-- Each descriptor finds its own server at the head of what is still free.
theorem roster_same {servers : List Server}
    (same : List.Forall₂ (fun s spec => s.isOf spec = true) servers specs) :
    roster windows slowStart servers nextId specs = .ok ⟨servers, [], nextId⟩ := by
  induction same with
  | nil => rfl
  | @cons s spec servers specs first rest ih =>
    have head : takeFirst (·.isOf spec) (s :: servers) = some (s, servers) := takeFirst_head first
    rw [roster, head]
    dsimp only
    rw [ih]
    rfl

end Service

end Balancing
