import Balancing.Service

namespace Balancing

universe u

variable {β : Type u}

-- Rescaling touches one counter only, a timer the rotation and the errors in a row.
structure Server.Steady (f : Server → β) : Prop where
  rescale : ∀ s, f s.rescale = f s
  activate : ∀ s, f s.activate = f s
  deactivate : ∀ s, f s.deactivate = f s

-- What a server is built with and keeps.
structure Server.Fixed (f : Server → β) : Prop extends Server.Steady f where
  acquire : ∀ s, f s.acquire = f s
  release : ∀ s isError, f (s.release isError) = f s
  recordOutcome : ∀ s isError micros, f (s.recordOutcome isError micros) = f s

-- Who a server is and what its descriptor said.
structure Origin where
  id : Nat
  address : String
  endpoint : Endpoint
  weight : UInt32
  rack : Option String
  datacenter : Option String
  slowStart : Option SlowStart

def Server.origin (s : Server) : Origin :=
  ⟨s.id, s.address, s.endpoint, s.weight, s.rack, s.datacenter, s.slowStart⟩

theorem Server.fixed_origin : Fixed origin where
  rescale s := by
    unfold rescale
    split <;> rfl
  activate _ := rfl
  deactivate _ := rfl
  acquire _ := rfl
  release _ _ := rfl
  recordOutcome s isError micros := by
    unfold recordOutcome
    split <;> rfl

theorem Server.Fixed.comp {α : Type} {f : Server → α} (fixed : Fixed f) (g : α → β) :
    Fixed (fun s => g (f s)) where
  rescale s := congrArg g (fixed.rescale s)
  activate s := congrArg g (fixed.activate s)
  deactivate s := congrArg g (fixed.deactivate s)
  acquire s := congrArg g (fixed.acquire s)
  release s isError := congrArg g (fixed.release s isError)
  recordOutcome s isError micros := congrArg g (fixed.recordOutcome s isError micros)

theorem Server.fixed_id : Fixed (·.id) := fixed_origin.comp (·.id)

-- Whether a server of this origin fits the descriptor, whatever has become of it.
def Origin.isOf (o : Origin) (spec : ServerSpec) : Bool :=
  o.address = spec.address && o.weight = Server.atLeastOne spec.weight && o.rack = spec.rack
    && o.datacenter = spec.datacenter.map Text.lowercase

theorem Server.fixed_isOf : Fixed isOf := fixed_origin.comp Origin.isOf

theorem Server.fixed_slowStart : Fixed (·.slowStart) := fixed_origin.comp (·.slowStart)

theorem Server.steady_requests : Steady (·.requests) where
  rescale s := by
    unfold rescale
    split <;> rfl
  activate _ := rfl
  deactivate _ := rfl

-- Counting one request off, down to zero.
theorem toNat_countedOff (requests : UInt32) :
    (if requests = 0 then 0 else requests - 1).toNat = requests.toNat - 1 := by
  split
  · rename_i none
    rw [none]
    rfl
  · rename_i some
    have pos : 1 ≤ requests := by
      rw [UInt32.le_iff_toNat_le]
      exact Nat.pos_of_ne_zero fun zero => some (UInt32.toNat_inj.mp zero)
    exact UInt32.toNat_sub_of_le _ _ pos

variable {f : Server → β}

-- Writing back what has stayed as it was.
theorem map_set_same {α : Type} {f : α → β} {l : List α} {i : Nat} {a a' : α}
    (found : l[i]? = some a) (same : f a' = f a) : (l.map f).set i (f a') = l.map f := by
  refine List.ext_getElem? fun j => ?_
  by_cases here : i = j
  · subst here
    obtain ⟨inside, _⟩ := List.getElem?_eq_some_iff.mp found
    rw [List.getElem?_set_self (by simpa using inside), List.getElem?_map, found, same]
    rfl
  · rw [List.getElem?_set_ne here]

-- Where no two keys are equal, writing at one place leaves only elements of other keys besides.
theorem mem_set_of_nodup {α κ : Type} {key : α → κ} {l : List α} (nodup : (l.map key).Nodup)
    {i : Nat} {old new a : α} (found : l[i]? = some old) (member : a ∈ l.set i new) :
    a = new ∨ a ∈ l ∧ key a ≠ key old := by
  obtain ⟨j, there⟩ := List.mem_iff_getElem?.mp member
  by_cases here : i = j
  · subst here
    obtain ⟨inside, _⟩ := List.getElem?_eq_some_iff.mp found
    rw [List.getElem?_set_self inside] at there
    cases there
    exact .inl rfl
  · rw [List.getElem?_set_ne here] at there
    refine .inr ⟨List.mem_of_getElem? there, fun equal => here ?_⟩
    obtain ⟨inside, _⟩ := List.getElem?_eq_some_iff.mp found
    refine (List.getElem?_inj (by simpa using inside) nodup).mp ?_
    rw [List.getElem?_map, List.getElem?_map, found, there, Option.map_some, Option.map_some, equal]

-- Writing at one place, as a map that finds the place by its key.
theorem set_eq_map {α κ : Type} [DecidableEq κ] {key : α → κ} {l : List α}
    (nodup : (l.map key).Nodup) {i : Nat} {a : α} (found : l[i]? = some a) (f : α → α) :
    l.set i (f a) = l.map fun x => if key x = key a then f x else x := by
  obtain ⟨inside, _⟩ := List.getElem?_eq_some_iff.mp found
  refine List.ext_getElem? fun j => ?_
  rw [List.getElem?_map]
  by_cases here : i = j
  · subst here
    rw [List.getElem?_set_self inside, found, Option.map_some, if_pos rfl]
  · rw [List.getElem?_set_ne here]
    cases there : l[j]? with
    | none => rfl
    | some x =>
      have other : key x ≠ key a := by
        intro same
        refine here ((List.getElem?_inj (by simpa using inside) nodup).mp ?_)
        rw [List.getElem?_map, List.getElem?_map, found, there, Option.map_some, Option.map_some,
          same]
      rw [Option.map_some, if_neg other]

theorem Rescale.map_pass (same : ∀ s, f s.rescale = f s) (side : Server → Bool)
    (servers : List Server) : (pass side servers).map f = servers.map f := by
  rw [pass, List.map_map]
  refine List.map_congr_left fun s _ => ?_
  show f (if side s then s.rescale else s) = f s
  split
  · exact same s
  · rfl

theorem Rescale.map_oneSide (same : ∀ s, f s.rescale = f s) (datacenter : Option String)
    (remote : Bool) (servers : List Server) :
    (oneSide datacenter remote servers).map f = servers.map f := by
  fun_induction oneSide datacenter remote servers with
  | case1 servers _ ih => rw [ih, map_pass same]
  | case2 => rfl

theorem Rescale.map_bothSides (same : ∀ s, f s.rescale = f s) (datacenter : Option String)
    (servers : List Server) : (bothSides datacenter servers).map f = servers.map f := by
  rw [bothSides, map_oneSide same, map_oneSide same]

namespace Service

theorem map_rescale (same : ∀ s, f s.rescale = f s) (s : Service) :
    s.rescale.servers.map f = s.servers.map f := Rescale.map_bothSides same ..

-- An acquire either finds nothing and does nothing, or counts one request on the chosen server.
theorem acquire_cases (s : Service) (now : Instant) (excluded : List Nat) :
    s.acquire now excluded = (none, s) ∨
    ∃ i server, s.servers[i]? = some server ∧
      s.acquire now excluded = (some (.of i server), (s.setServer i server.acquire).rescale) := by
  unfold acquire
  split
  · exact .inl rfl
  · rename_i i chosen
    split
    · exact .inl rfl
    · rename_i server found
      exact .inr ⟨i, server, found, rfl⟩

theorem acquire_some {s s' : Service} {now : Instant} {excluded : List Nat} {entry : Entry}
    (acquired : s.acquire now excluded = (some entry, s')) :
    ∃ server, s.servers[entry.index]? = some server ∧ entry = .of entry.index server ∧
      s' = (s.setServer entry.index server.acquire).rescale := by
  rcases acquire_cases s now excluded with nothing | ⟨i, server, found, lent⟩
  · rw [nothing] at acquired
    cases acquired
  · rw [lent] at acquired
    cases acquired
    exact ⟨server, found, rfl, rfl⟩

theorem acquire_none {s s' : Service} {now : Instant} {excluded : List Nat}
    (acquired : s.acquire now excluded = (none, s')) : s' = s := by
  rcases acquire_cases s now excluded with nothing | ⟨i, server, found, lent⟩
  · rw [nothing] at acquired
    cases acquired
    rfl
  · rw [lent] at acquired
    cases acquired

theorem map_acquired (same : ∀ s, f s.rescale = f s) (s : Service) (i : Nat) (server : Server) :
    (s.setServer i server).rescale.servers.map f = (s.servers.map f).set i (f server) := by
  rw [map_rescale same]
  exact List.map_set ..

section

variable {γ : Type} {ticket : UInt64 → γ → UInt64 × γ} {s : Service} {count : Nat} {g : γ}
  {drawn : List Entry × γ}

theorem mem_entriesAt {places : List Nat} {entry : Entry} (member : entry ∈ s.entriesAt places) :
    ∃ server, s.servers[entry.index]? = some server ∧ entry = .of entry.index server ∧
      LeastLoaded.isEligible s.datacenter s.allowRemote server = true := by
  obtain ⟨place, _, found⟩ := List.mem_filterMap.mp member
  obtain ⟨⟨server, i⟩, there, rfl⟩ := Option.map_eq_some_iff.mp found
  obtain ⟨listed, eligible⟩ := List.mem_filter.mp (List.mem_of_getElem? there)
  exact ⟨server, List.mem_zipIdx_iff_getElem?.mp listed, rfl, eligible⟩

theorem acquireAdaptive_ok (went : s.acquireAdaptive ticket count g = .ok drawn) :
    ∃ places, Weighted.order ticket (s.eligible.map Prod.fst) count g = .ok (places, drawn.2) ∧
      drawn.1 = s.entriesAt places := by
  obtain ⟨run, ordered, same⟩ := bind_ok_iff.mp went
  cases same
  exact ⟨run.1, ordered, rfl⟩

theorem mem_acquireAdaptive (went : s.acquireAdaptive ticket count g = .ok drawn) {entry : Entry}
    (member : entry ∈ drawn.1) :
    ∃ server, s.servers[entry.index]? = some server ∧ entry = .of entry.index server ∧
      LeastLoaded.isEligible s.datacenter s.allowRemote server = true := by
  obtain ⟨places, _, entries⟩ := acquireAdaptive_ok went
  exact mem_entriesAt (entries ▸ member)

end

theorem serverOf?_eq_some_iff {s : Service} {entry : Entry} {server : Server} :
    s.serverOf? entry = some server ↔
      s.servers[entry.index]? = some server ∧ server.address = entry.address := by
  unfold serverOf?
  cases s.servers[entry.index]? with
  | none => simp
  | some found =>
    dsimp only
    split
    · rename_i same
      constructor
      · rintro ⟨⟩
        exact ⟨rfl, same⟩
      · rintro ⟨⟨⟩, _⟩
        rfl
    · rename_i other
      constructor
      · rintro ⟨⟩
      · rintro ⟨⟨⟩, same⟩
        exact absurd same other

-- An error is not timed.
theorem breakdown?_of_error (s : Service) (entry : Entry) (micros : UInt64) (adaptive : Bool) :
    s.breakdown? entry true micros adaptive = none := by
  unfold breakdown?
  split
  · cases s.serverOf? entry <;> rfl
  · rfl

theorem release_of_none {s : Service} {entry : Entry} (gone : s.serverOf? entry = none)
    (now : Instant) (profile : String) (isError : Bool) (micros : UInt64) (adaptive : Bool) :
    s.release now profile entry isError micros adaptive = (s, []) := by
  simp only [release, gone]

theorem release_adaptive {s : Service} {entry : Entry} {server : Server}
    (found : s.serverOf? entry = some server) (now : Instant) (profile : String) (isError : Bool)
    (micros : UInt64) :
    s.release now profile entry isError micros true
      = (s.setServer entry.index (server.recordOutcome isError micros), []) := by
  simp only [release, found, if_true]

-- A release that reaches its server leaves it in the rotation or takes it out.
theorem release_static {s : Service} {entry : Entry} {server : Server}
    (found : s.serverOf? entry = some server) (now : Instant) (profile : String) (isError : Bool)
    (micros : UInt64) :
    let released := server.release isError
    let after := s.setServer entry.index released
    s.release now profile entry isError micros false = (after, []) ∨
    ∃ p, s.profile? profile = some p ∧ suspends p released isError ∧
      s.release now profile entry isError micros false
        = (after.suspend now entry.index released p.failTimeout,
          [⟨p.failTimeout, released.address⟩]) := by
  intro released after
  simp only [release, found, Bool.false_eq_true, if_false]
  split
  · exact .inl rfl
  · rename_i p configured
    split
    · rename_i leaves
      exact .inr ⟨p, configured, leaves, rfl⟩
    · exact .inl rfl

-- Only an error takes a server out, and only one that is in.
theorem of_suspends {p : Profile} {released : Server} {isError : Bool}
    (leaves : suspends p released isError) : isError = true ∧ released.active = true := by
  simp only [suspends, Bool.and_eq_true] at leaves
  exact ⟨leaves.1.1.1, leaves.2⟩

theorem release_success {s : Service} {entry : Entry} {server : Server}
    (found : s.serverOf? entry = some server) (now : Instant) (profile : String)
    (micros : UInt64) :
    s.release now profile entry false micros false
      = (s.setServer entry.index (server.release false), []) := by
  rcases release_static found now profile false micros with stays | ⟨p, _, suspends, _⟩
  · exact stays
  · cases (of_suspends suspends).1

theorem map_suspend (same : ∀ s, f s.rescale = f s) (s : Service) (now : Instant) (i : Nat)
    (server : Server) (delay : Duration) :
    ((s.setServer i server).suspend now i server delay).servers.map f
      = (s.servers.map f).set i (f server.deactivate) := by
  unfold suspend
  rw [map_rescale same]
  show ((s.servers.set i server).set i server.deactivate).map f = _
  rw [List.set_set, List.map_set]

theorem map_release_static (steady : Server.Steady f) {s : Service} {entry : Entry}
    {server : Server} (found : s.serverOf? entry = some server) (now : Instant) (profile : String)
    (isError : Bool) (micros : UInt64) :
    (s.release now profile entry isError micros false).1.servers.map f
      = (s.servers.map f).set entry.index (f (server.release isError)) := by
  rcases release_static found now profile isError micros with stays | ⟨p, _, _, leaves⟩
  · rw [stays]
    exact List.map_set ..
  · rw [leaves, ← steady.deactivate]
    exact map_suspend steady.rescale ..

theorem map_release_adaptive (same : ∀ s isError micros, f (s.recordOutcome isError micros) = f s)
    (s : Service) (now : Instant) (profile : String) (entry : Entry) (isError : Bool)
    (micros : UInt64) :
    (s.release now profile entry isError micros true).1.servers.map f = s.servers.map f := by
  cases reached : s.serverOf? entry with
  | none => rw [release_of_none reached]
  | some server =>
    have found := (serverOf?_eq_some_iff.mp reached).1
    rw [release_adaptive reached]
    show (s.servers.set _ _).map f = _
    rw [List.map_set]
    exact map_set_same found (same server isError micros)

theorem getElem?_release_of_ne (same : ∀ s, f s.rescale = f s) (s : Service) (now : Instant)
    (profile : String) {entry : Entry} (isError : Bool) (micros : UInt64) (adaptive : Bool)
    {i : Nat} (elsewhere : entry.index ≠ i) :
    ((s.release now profile entry isError micros adaptive).1.servers.map f)[i]?
      = (s.servers.map f)[i]? := by
  have set (server : Server) :
      ((s.servers.set entry.index server).map f)[i]? = (s.servers.map f)[i]? := by
    rw [List.map_set, List.getElem?_set_ne elsewhere]
  cases reached : s.serverOf? entry with
  | none => rw [release_of_none reached]
  | some server =>
    cases adaptive with
    | true =>
      rw [release_adaptive reached]
      exact set _
    | false =>
      rcases release_static reached now profile isError micros with stays | ⟨p, _, _, leaves⟩
      · rw [stays]
        exact set _
      · rw [leaves]
        unfold suspend
        rw [map_rescale same]
        show (((s.servers.set _ _).set _ _).map f)[i]? = _
        rw [List.set_set]
        exact set _

theorem map_reactivate (same : ∀ s, f s.activate = f s) (ids : List Nat) (servers : List Server) :
    (reactivate ids servers).map f = servers.map f := by
  rw [reactivate, List.map_map]
  refine List.map_congr_left fun s _ => ?_
  show f (if ids.contains s.id then s.activate else s) = f s
  split
  · exact same s
  · rfl

-- The servers whose reactivation is due.
def dueIds (s : Service) (now : Instant) : List Nat :=
  (s.pending.filter (isDue now)).map (·.server)

theorem reactivate_nil (servers : List Server) : reactivate [] servers = servers := by
  simp [reactivate]

-- Also when nothing is due.
theorem wake_eq (s : Service) (now : Instant) :
    s.wake now = { s with
      servers := reactivate (s.dueIds now) s.servers
      retired := reactivate (s.dueIds now) s.retired
      pending := s.pending.filter (!isDue now ·) } := by
  unfold wake
  dsimp only
  split
  · rename_i none
    have nobody : s.dueIds now = [] := List.isEmpty_iff.mp none
    have early : s.pending.filter (!isDue now ·) = s.pending := by
      refine List.filter_eq_self.mpr fun r member => ?_
      have not_due := List.filter_eq_nil_iff.mp (List.map_eq_nil_iff.mp nobody) r member
      simpa using not_due
    rw [nobody, reactivate_nil, reactivate_nil, early]
  · rfl

theorem map_wake (same : ∀ s, f s.activate = f s) (s : Service) (now : Instant) :
    (s.wake now).servers.map f = s.servers.map f := by
  rw [wake_eq]
  exact map_reactivate same ..

theorem map_acquire (fixed : Server.Fixed f) (s : Service) (now : Instant) (excluded : List Nat) :
    (s.acquire now excluded).2.servers.map f = s.servers.map f := by
  rcases acquire_cases s now excluded with nothing | ⟨i, server, found, lent⟩
  · rw [nothing]
  · rw [lent, map_acquired fixed.rescale]
    exact map_set_same found (fixed.acquire server)

theorem map_release (fixed : Server.Fixed f) (s : Service) (now : Instant) (profile : String)
    (entry : Entry) (isError : Bool) (micros : UInt64) (adaptive : Bool) :
    (s.release now profile entry isError micros adaptive).1.servers.map f = s.servers.map f := by
  cases adaptive with
  | true => exact map_release_adaptive fixed.recordOutcome ..
  | false =>
    cases reached : s.serverOf? entry with
    | none => rw [release_of_none reached]
    | some server =>
      rw [map_release_static fixed.toSteady reached]
      exact map_set_same (serverOf?_eq_some_iff.mp reached).1 (fixed.release server isError)

-- All that a service is apart from its servers and their timers.
def shell (s : Service) : Service := { s with servers := [], retired := [], pending := [] }

theorem shell_acquire (s : Service) (now : Instant) (excluded : List Nat) :
    (s.acquire now excluded).2.shell = s.shell := by
  rcases acquire_cases s now excluded with nothing | ⟨i, server, _, lent⟩
  · rw [nothing]
  · rw [lent]
    rfl

theorem shell_release (s : Service) (now : Instant) (profile : String) (entry : Entry)
    (isError : Bool) (micros : UInt64) (adaptive : Bool) :
    (s.release now profile entry isError micros adaptive).1.shell = s.shell := by
  cases found : s.serverOf? entry with
  | none => rw [release_of_none found]
  | some server =>
    cases adaptive with
    | true =>
      rw [release_adaptive found]
      rfl
    | false =>
      rcases release_static found now profile isError micros with stays | ⟨p, _, _, leaves⟩
      · rw [stays]
        rfl
      · rw [leaves]
        rfl

theorem shell_wake (s : Service) (now : Instant) : (s.wake now).shell = s.shell := by
  rw [wake_eq]
  rfl

-- `s'` is `s` after some use: set up in the same way, with the same servers in the same places.
structure Used (s s' : Service) : Prop where
  shell : s'.shell = s.shell
  origins : s'.servers.map Server.origin = s.servers.map Server.origin

variable {s s' : Service}

theorem used_refl (s : Service) : s.Used s := ⟨rfl, rfl⟩

theorem used_acquire (s : Service) (now : Instant) (excluded : List Nat) :
    s.Used (s.acquire now excluded).2 :=
  ⟨shell_acquire .., map_acquire Server.fixed_origin ..⟩

theorem used_release (s : Service) (now : Instant) (profile : String) (entry : Entry)
    (isError : Bool) (micros : UInt64) (adaptive : Bool) :
    s.Used (s.release now profile entry isError micros adaptive).1 :=
  ⟨shell_release .., map_release Server.fixed_origin ..⟩

theorem used_wake (s : Service) (now : Instant) : s.Used (s.wake now) :=
  ⟨shell_wake .., map_wake Server.fixed_origin.activate ..⟩

theorem Used.length (used : s.Used s') : s'.servers.length = s.servers.length := by
  have lengths := congrArg List.length used.origins
  rwa [List.length_map, List.length_map] at lengths

-- Any feature that a server is built with.
theorem Used.map (used : s.Used s') (f : Origin → β) :
    s'.servers.map (fun server => f server.origin)
      = s.servers.map fun server => f server.origin := by
  have features := congrArg (List.map f) used.origins
  rwa [List.map_map, List.map_map] at features

end Service

end Balancing
