import Balancing.Proofs.Service.Exact
import Balancing.Proofs.Service.Fairness

namespace Balancing

-- The passes over the server at a place when the list is rescaled.
def Rescale.passesAt (datacenter : Option String) (servers : List Server) (i : Nat) : Nat :=
  match servers[i]? with
  | none => 0
  | some server =>
    if server.active then laps datacenter servers (server.isRemote datacenter) else 0

namespace Moment

-- The list that an action rescales, as it stands just before; most actions rescale none.
def unscaled? (m : Moment) : Action → Option (List Server)
  | .acquire excluded =>
    match (m.service.acquire m.clock excluded).1 with
    | none => none
    | some entry => m.service.servers[entry.index]?.map fun server =>
      m.service.servers.set entry.index server.acquire
  | .release profile entry isError _ false =>
    match m.service.serverOf? entry, m.service.profile? profile with
    | some server, some p =>
      let released := server.release isError
      if Service.suspends p released isError then
        some (m.service.servers.set entry.index released.deactivate)
      else none
    | _, _ => none
  | _ => none

def passesOf (m : Moment) (i : Nat) (action : Action) : Nat :=
  match m.unscaled? action with
  | none => 0
  | some servers => Rescale.passesAt m.service.datacenter servers i

-- The passes over the server at a place in a run.
def passes (m : Moment) (i : Nat) : List Action → Nat
  | [] => 0
  | action :: rest => m.passesOf i action + (m.after action).passes i rest

-- How often the server at a place is chosen in a run.
def timesTaken (m : Moment) (i : Nat) (actions : List Action) : Nat :=
  (m.choices actions).count (some i)

-- One if the action chooses the place.
def takes (m : Moment) (i : Nat) (action : Action) : Nat := m.timesTaken i [action]

theorem timesTaken_cons (m : Moment) (i : Nat) (action : Action) (rest : List Action) :
    m.timesTaken i (action :: rest) = m.takes i action + (m.after action).timesTaken i rest := by
  cases action with
  | acquire excluded =>
    simp only [timesTaken, takes, choices, List.count_cons, List.count_nil]
    omega
  | release => exact (Nat.zero_add _).symm
  | update => exact (Nat.zero_add _).symm
  | enable => exact (Nat.zero_add _).symm
  | pass => exact (Nat.zero_add _).symm

theorem timesTaken_append (m : Moment) (i : Nat) (first later : List Action) :
    m.timesTaken i (first ++ later) = m.timesTaken i first + (m.run first).timesTaken i later := by
  induction first generalizing m with
  | nil => exact (Nat.zero_add _).symm
  | cons action first ih =>
    rw [List.cons_append, timesTaken_cons, timesTaken_cons, ih, Nat.add_assoc]
    rfl

theorem passes_append (m : Moment) (i : Nat) (first later : List Action) :
    m.passes i (first ++ later) = m.passes i first + (m.run first).passes i later := by
  induction first generalizing m with
  | nil => exact (Nat.zero_add _).symm
  | cons action first ih =>
    rw [List.cons_append, passes, passes, ih, Nat.add_assoc]
    rfl

end Moment

-- A server counts on from `old`, with `takes` requests and `passes` weights taken off.
structure Server.CountsOn (old later : Server) (takes passes : Nat) : Prop where
  weight : later.weight = old.weight
  le : passes * old.weight.toNat ≤ (old.statsRequests.toNat + takes) % UInt32.size
  stats : later.statsRequests.toNat
    = (old.statsRequests.toNat + takes) % UInt32.size - passes * old.weight.toNat

theorem Server.countsOn_same {old later : Server} (weight : later.weight = old.weight)
    (stats : later.statsRequests = old.statsRequests) : old.CountsOn later 0 0 where
  weight := weight
  le := by omega
  stats := by
    have lt := old.statsRequests.toNat_lt
    rw [stats, Nat.add_zero, Nat.zero_mul, Nat.sub_zero, Nat.mod_eq_of_lt lt]

-- What a server counts by: fixed by all that neither takes a request nor a weight off.
def Server.count (s : Server) : UInt32 × UInt32 := (s.weight, s.statsRequests)

theorem Server.countsOn_of_counts {servers servers' : List Server}
    (same : servers'.map count = servers.map count) {i : Nat} {server : Server}
    (found : servers[i]? = some server) :
    ∃ later, servers'[i]? = some later ∧ server.CountsOn later 0 0 := by
  have there := congrArg (·[i]?) same
  simp only [List.getElem?_map, found, Option.map_some, Option.map_eq_some_iff] at there
  obtain ⟨later, here, count⟩ := there
  exact ⟨later, here, countsOn_same (congrArg Prod.fst count) (congrArg Prod.snd count)⟩

-- Rescaling takes off the weights of the passes, from a server that has just been counted.
theorem Rescale.countsOn_bothSides {datacenter : Option String} {servers : List Server} {i : Nat}
    {old counted : Server} {takes : Nat} (found : servers[i]? = some counted)
    (weight : counted.weight = old.weight)
    (stats : counted.statsRequests.toNat = (old.statsRequests.toNat + takes) % UInt32.size) :
    ∃ later, (bothSides datacenter servers)[i]? = some later ∧
      old.CountsOn later takes (passesAt datacenter servers i) := by
  have member := List.mem_of_getElem? found
  rw [bothSides_laps, List.getElem?_map, found, Option.map_some, passesAt, found]
  dsimp only
  by_cases active : counted.active = true
  · rw [if_pos active, if_pos active]
    have le := (areLaps_laps datacenter servers (counted.isRemote datacenter)).le counted member
      (onSide_of_active active)
    refine ⟨_, rfl, weight, ?_, ?_⟩
    · rw [← stats, ← weight]
      exact le
    · rw [Server.statsRequests_lower, ← stats, weight]
  · rw [if_neg active, if_neg active]
    refine ⟨_, rfl, weight, by omega, ?_⟩
    rw [stats]
    omega

namespace Moment

variable {m : Moment}

theorem countsOn_acquire (excluded : List Nat) {i : Nat} {server : Server}
    (found : m.service.servers[i]? = some server) :
    ∃ later, (m.after (.acquire excluded)).service.servers[i]? = some later ∧
      server.CountsOn later (m.takes i (.acquire excluded)) (m.passesOf i (.acquire excluded)) := by
  rcases Service.acquire_cases m.service m.clock excluded with nothing | ⟨j, taken, there, lent⟩
  · simp only [takes, timesTaken, choices, passesOf, unscaled?, after, nothing]
    exact ⟨server, found, Server.countsOn_same rfl rfl⟩
  · simp only [takes, timesTaken, choices, passesOf, unscaled?, after, lent, Entry.of, there,
      Option.map_some]
    have counted : (m.service.servers.set j taken.acquire)[i]?
        = some (if j = i then server.acquire else server) := by
      split
      · rename_i here
        subst here
        cases found.symm.trans there
        exact List.getElem?_set_self (List.getElem?_eq_some_iff.mp found).1
      · rename_i elsewhere
        rw [List.getElem?_set_ne elsewhere]
        exact found
    refine Rescale.countsOn_bothSides counted ?_ ?_
    · split <;> rfl
    · have lt := server.statsRequests.toNat_lt
      simp only [List.count_singleton, beq_iff_eq, Option.some.injEq]
      split
      · exact UInt32.toNat_add ..
      · exact (Nat.mod_eq_of_lt lt).symm

theorem map_set_count {servers : List Server} {i : Nat} {server server' : Server}
    (found : servers[i]? = some server) (same : server'.count = server.count) :
    (servers.set i server').map Server.count = servers.map Server.count := by
  rw [List.map_set]
  exact map_set_same found same

-- A release counts nothing. Only where it takes its server out does it rescale the list.
theorem counts_release (m : Moment) (profile : String) (entry : Entry) (isError : Bool)
    (micros : UInt64) (adaptive : Bool) :
    let action := Action.release profile entry isError micros adaptive
    (m.unscaled? action = none ∧
      (m.after action).service.servers.map Server.count = m.service.servers.map Server.count) ∨
    ∃ servers, m.unscaled? action = some servers ∧
      servers.map Server.count = m.service.servers.map Server.count ∧
      (m.after action).service.servers = Rescale.bothSides m.service.datacenter servers := by
  intro action
  cases reached : m.service.serverOf? entry with
  | none =>
    refine .inl ⟨?_, ?_⟩
    · cases adaptive <;> simp only [action, unscaled?, reached]
    · simp only [action, after, Service.release_of_none reached]
  | some server =>
    have found := (Service.serverOf?_eq_some_iff.mp reached).1
    cases adaptive with
    | true =>
      refine .inl ⟨rfl, ?_⟩
      simp only [action, after, Service.release_adaptive reached]
      refine map_set_count found ?_
      unfold Server.recordOutcome
      split <;> rfl
    | false =>
      have profiles : (m.service.setServer entry.index (server.release isError)).profile? profile
          = m.service.profile? profile := rfl
      simp only [action, unscaled?, after, Service.release, reached, Bool.false_eq_true, if_false,
        profiles]
      cases m.service.profile? profile with
      | none => exact .inl ⟨rfl, map_set_count found rfl⟩
      | some p =>
        dsimp only
        split
        · simp only [Service.suspend, Service.rescale, Service.setServer, List.set_set]
          exact .inr ⟨_, rfl, map_set_count found rfl, rfl⟩
        · exact .inl ⟨rfl, map_set_count found rfl⟩

theorem countsOn_release (profile : String) (entry : Entry) (isError : Bool) (micros : UInt64)
    (adaptive : Bool) {i : Nat} {server : Server} (found : m.service.servers[i]? = some server) :
    let action := Action.release profile entry isError micros adaptive
    ∃ later, (m.after action).service.servers[i]? = some later ∧
      server.CountsOn later 0 (m.passesOf i action) := by
  intro action
  rcases counts_release m profile entry isError micros adaptive with
    ⟨none, same⟩ | ⟨servers, unscaled, same, rescaled⟩
  · rw [passesOf, none]
    exact Server.countsOn_of_counts same found
  · obtain ⟨counted, here, before⟩ := Server.countsOn_of_counts same found
    rw [passesOf, unscaled, rescaled]
    refine Rescale.countsOn_bothSides here before.weight ?_
    rw [before.stats]
    omega

theorem countsOn_after {action : Action} (kept : ∀ profiles specs, action ≠ .update profiles specs)
    {i : Nat} {server : Server} (found : m.service.servers[i]? = some server) :
    ∃ later, (m.after action).service.servers[i]? = some later ∧
      server.CountsOn later (m.takes i action) (m.passesOf i action) := by
  cases action with
  | acquire excluded => exact countsOn_acquire excluded found
  | release => exact countsOn_release _ _ _ _ _ found
  | update profiles specs => exact absurd rfl (kept profiles specs)
  | enable enabled => exact ⟨server, found, Server.countsOn_same rfl rfl⟩
  | pass nanoseconds =>
    exact Server.countsOn_of_counts (Service.map_wake (fun _ => rfl) ..) found

-- The same over a run, where the weights that are taken off never pass what is taken.
structure Balance (old later : Server) (takes passes : Nat) : Prop where
  weight : later.weight = old.weight
  le : passes * old.weight.toNat ≤ old.statsRequests.toNat + takes
  stats : later.statsRequests.toNat
    = (old.statsRequests.toNat + takes - passes * old.weight.toNat) % UInt32.size

theorem Balance.cons {old next later : Server} {takes passes takes' passes' : Nat}
    (first : old.CountsOn next takes passes) (rest : Balance next later takes' passes') :
    Balance old later (takes + takes') (passes + passes') := by
  obtain ⟨weight, le, stats⟩ := first
  obtain ⟨weight', le', stats'⟩ := rest
  rw [weight] at le' stats'
  -- What the first step left and took off is all there was, up to whole rounds of the counter.
  have whole := Nat.div_add_mod (old.statsRequests.toNat + takes) UInt32.size
  have split : passes * old.weight.toNat + passes' * old.weight.toNat
      = (passes + passes') * old.weight.toNat := (Nat.add_mul ..).symm
  refine ⟨weight'.trans weight, by omega, ?_⟩
  rw [stats', ← Nat.add_mul_mod_self_left _ UInt32.size
    ((old.statsRequests.toNat + takes) / UInt32.size)]
  congr 1
  omega

theorem balance_run {actions : List Action}
    (fixed : ∀ profiles specs, Action.update profiles specs ∉ actions) {i : Nat} {server : Server}
    (found : m.service.servers[i]? = some server) :
    ∃ later, (m.run actions).service.servers[i]? = some later ∧
      Balance server later (m.timesTaken i actions) (m.passes i actions) := by
  induction actions generalizing m server with
  | nil =>
    refine ⟨server, found, rfl, by simp [passes], ?_⟩
    have lt := server.statsRequests.toNat_lt
    simp only [timesTaken, choices, passes, List.count_nil, Nat.add_zero, Nat.zero_mul,
      Nat.sub_zero]
    exact (Nat.mod_eq_of_lt lt).symm
  | cons action actions ih =>
    obtain ⟨next, there, first⟩ := countsOn_after (fun profiles specs same =>
      fixed profiles specs (same ▸ List.mem_cons_self)) found
    obtain ⟨later, here, rest⟩ := ih (fun profiles specs member =>
      fixed profiles specs (List.mem_cons_of_mem _ member)) there
    rw [timesTaken_cons, passes]
    exact ⟨later, here, rest.cons first⟩

end Moment

-- A server with nothing in flight ranks before one with something, whatever both have taken.
theorem LeastLoaded.keyOf_lt_of_busy (servers : List Server) {datacenter : Option String}
    (now : Instant) {idle busy : Server}
    (side : idle.isRemote datacenter = busy.isRemote datacenter) (none : idle.requests = 0)
    (some : busy.requests ≠ 0) :
    keyOf servers [] datacenter now idle < keyOf servers [] datacenter now busy := by
  have pos := idle.effectiveWeight_pos now
  have pos' := busy.effectiveWeight_pos now
  have lt := idle.effectiveWeight_lt now
  have lt' := busy.effectiveWeight_lt now
  have requests := busy.requests.toNat_lt
  have held : 0 < busy.requests.toNat :=
    Nat.pos_of_ne_zero fun zero => some (UInt32.toNat_inj.mp zero)
  have tried (s : Server) : isTriedRack (racksAt servers []) s = false := by
    cases rack : s.rack <;> simp [isTriedRack, racksAt, rack]
  have load : ((Binary64.ofNat 0).div (.ofNat (idle.effectiveWeight now))).value
      < ((Binary64.ofNat busy.requests.toNat).div (.ofNat (busy.effectiveWeight now))).value := by
    refine Binary64.value_div_lt (by omega) pos (by omega) (by omega) pos' (by omega) ?_
    have share : (0 : ℚ) < busy.requests.toNat / busy.effectiveWeight now := by positivity
    rw [Nat.cast_zero, zero_div, sub_zero]
    exact div_lt_self share (by norm_num)
  rw [keyOf, keyOf, rank, rank]
  simp only [Rank.key, Prod.Lex.toLex_lt_toLex, side, tried, none, UInt32.toNat_zero, lt_irrefl,
    true_and, false_or]
  exact .inl load

namespace Service

-- Nobody is left out, and who has a part of its weight left has nothing in flight.
structure Calm (s : Service) (excluded : List Nat) : Prop where
  all : excluded = []
  free : ∀ server ∈ s.servers, server.active = true →
    server.statsRequests.toNat < server.weight.toNat → server.requests = 0

instance (s : Service) (excluded : List Nat) : Decidable (s.Calm excluded) :=
  decidable_of_iff (excluded = [] ∧ ∀ server ∈ s.servers, server.active = true →
      server.statsRequests.toNat < server.weight.toNat → server.requests = 0)
    ⟨fun both => ⟨both.1, both.2⟩, fun calm => ⟨calm.all, calm.free⟩⟩

-- A server that has taken no more than its weight, which leaves room in its counter for one more.
structure Within (server : Server) : Prop where
  most : server.statsRequests.toNat ≤ server.weight.toNat
  room : server.weight.toNat + 1 < UInt32.size

variable {s : Service}

-- Who is chosen has a part of its weight left, or nobody on its side has.
theorem left_of_chosen (steady : ∀ server ∈ s.servers, server.slowStart = none)
    (within : ∀ server ∈ s.servers, Within server) {excluded : List Nat} (calm : s.Calm excluded)
    {now : Instant} {i : Nat} {server : Server} (may : s.MayServe i server)
    (least : ∀ j other, s.MayServe j other → j ∉ excluded →
      LeastLoaded.keyOf s.servers excluded s.datacenter now server
        ≤ LeastLoaded.keyOf s.servers excluded s.datacenter now other)
    {j : Nat} {other : Server} (there : s.servers[j]? = some other) (active : other.active = true)
    (side : other.isRemote s.datacenter = server.isRemote s.datacenter)
    (left : other.statsRequests.toNat < other.weight.toNat) :
    server.statsRequests.toNat < server.weight.toNat := by
  apply Classical.byContradiction
  intro full
  have listed := List.mem_of_getElem? may.found
  have member := List.mem_of_getElem? there
  have taken : server.statsRequests.toNat = server.weight.toNat :=
    Nat.le_antisymm (within server listed).most (Nat.le_of_not_lt full)
  have idle := calm.free other member active left
  have others : s.MayServe j other := ⟨there, active, side ▸ may.near⟩
  obtain rfl := calm.all
  have before : LeastLoaded.keyOf s.servers [] s.datacenter now other
      < LeastLoaded.keyOf s.servers [] s.datacenter now server := by
    by_cases busy : server.requests = 0
    · exact LeastLoaded.keyOf_lt_of_full s.servers now
        ⟨may.active, rfl, steady server listed, busy⟩
        ⟨active, side, steady other member, idle⟩ taken left
    · exact LeastLoaded.keyOf_lt_of_busy s.servers now side idle busy
  exact absurd (least j other others List.not_mem_nil) (not_le_of_gt before)

theorem Within.lower {server : Server} (within : Within server) (laps : Nat) :
    Within (server.lower laps) where
  most := by
    rw [Server.statsRequests_lower]
    exact Nat.le_trans (Nat.sub_le ..) within.most
  room := within.room

theorem Within.toNat_acquire {server : Server} (within : Within server) :
    server.acquire.statsRequests.toNat = server.statsRequests.toNat + 1 := by
  show (server.statsRequests + 1).toNat = _
  rw [UInt32.toNat_add, UInt32.toNat_one]
  exact Nat.mod_eq_of_lt (Nat.lt_of_le_of_lt (Nat.succ_le_succ within.most) within.room)

theorem within_bothSides {servers : List Server} (within : ∀ server ∈ servers, Within server)
    (datacenter : Option String) : ∀ server ∈ Rescale.bothSides datacenter servers,
      Within server := by
  rw [Rescale.bothSides_laps]
  intro later member
  obtain ⟨server, listed, rfl⟩ := List.mem_map.mp member
  split
  · exact (within server listed).lower _
  · exact within server listed

theorem within_of_counts {servers servers' : List Server}
    (same : servers'.map Server.count = servers.map Server.count)
    (within : ∀ server ∈ servers, Within server) : ∀ server ∈ servers', Within server := by
  intro later member
  have listed := List.mem_map_of_mem (f := Server.count) member
  rw [same] at listed
  obtain ⟨server, among, equal⟩ := List.mem_map.mp listed
  have weight : server.weight = later.weight := congrArg Prod.fst equal
  have stats : server.statsRequests = later.statsRequests := congrArg Prod.snd equal
  have kept := within server among
  exact ⟨stats ▸ weight ▸ kept.most, weight ▸ kept.room⟩

theorem within_acquire (steady : ∀ server ∈ s.servers, server.slowStart = none)
    (within : ∀ server ∈ s.servers, Within server) {excluded : List Nat} (calm : s.Calm excluded)
    (now : Instant) : ∀ server ∈ (s.acquire now excluded).2.servers, Within server := by
  rcases acquire_chosen s now excluded with ⟨nothing, _⟩ | ⟨i, server, may, _, lent, least⟩
  · rw [nothing]
    exact within
  rw [lent]
  simp only [rescale, setServer, Rescale.bothSides_laps]
  have own := within server (List.mem_of_getElem? may.found)
  intro later member
  obtain ⟨counted, among, rfl⟩ := List.mem_map.mp member
  rcases List.mem_or_eq_of_mem_set among with old | rfl
  · split
    · exact (within counted old).lower _
    · exact within counted old
  · have active : server.acquire.active = true := may.active
    rw [if_pos active]
    refine ⟨?_, own.room⟩
    show _ ≤ server.weight.toNat
    rw [Server.statsRequests_lower, own.toNat_acquire]
    by_cases left : server.statsRequests.toNat < server.weight.toNat
    · omega
    · -- Nobody on its side has anything left, so that a pass follows.
      have areLaps := Rescale.areLaps_laps s.datacenter (s.servers.set i server.acquire)
        (server.isRemote s.datacenter)
      obtain ⟨short, among', side, less⟩ := areLaps.least
        ⟨_, among, Rescale.onSide_of_active active⟩
      have full : short.weight.toNat ≤ short.statsRequests.toNat := by
        rcases List.mem_or_eq_of_mem_set among' with old | rfl
        · obtain ⟨j, there⟩ := List.mem_iff_getElem?.mp old
          obtain ⟨active', side'⟩ := Rescale.isRemote_of_onSide side
          exact Nat.le_of_not_lt fun some =>
            left (left_of_chosen steady within calm may least there active' side' some)
        · rw [own.toNat_acquire]
          show server.weight.toNat ≤ _
          omega
      have positive : Rescale.laps s.datacenter (s.servers.set i server.acquire)
          (server.isRemote s.datacenter) ≠ 0 := by
        intro none
        rw [none, Nat.zero_add, Nat.one_mul] at less
        omega
      have once := Nat.le_mul_of_pos_left server.weight.toNat (Nat.pos_of_ne_zero positive)
      have most := own.most
      have weight := server.weight_toNat_pos
      show _ - Rescale.laps _ _ (server.isRemote s.datacenter) * server.weight.toNat ≤ _
      omega

end Service

namespace Moment

variable {m : Moment}

def IsCalm (m : Moment) : Action → Prop
  | .acquire excluded => m.service.Calm excluded
  | _ => True

instance (m : Moment) : DecidablePred m.IsCalm
  | .acquire excluded => inferInstanceAs (Decidable (m.service.Calm excluded))
  | .release .. => inferInstanceAs (Decidable True)
  | .update .. => inferInstanceAs (Decidable True)
  | .enable _ => inferInstanceAs (Decidable True)
  | .pass _ => inferInstanceAs (Decidable True)

-- Every acquire of the run is calm.
def Calm (m : Moment) : List Action → Prop
  | [] => True
  | action :: rest => m.IsCalm action ∧ (m.after action).Calm rest

instance decidableCalm (m : Moment) : (actions : List Action) → Decidable (m.Calm actions)
  | [] => inferInstanceAs (Decidable True)
  | action :: rest =>
    have := decidableCalm (m.after action) rest
    inferInstanceAs (Decidable (m.IsCalm action ∧ (m.after action).Calm rest))

theorem within_after (steady : ∀ server ∈ m.service.servers, server.slowStart = none)
    (within : ∀ server ∈ m.service.servers, Service.Within server) {action : Action}
    (kept : ∀ profiles specs, action ≠ .update profiles specs) (calm : m.IsCalm action) :
    ∀ server ∈ (m.after action).service.servers, Service.Within server := by
  cases action with
  | acquire excluded => exact Service.within_acquire steady within calm m.clock
  | release profile entry isError micros adaptive =>
    rcases counts_release m profile entry isError micros adaptive with
      ⟨_, same⟩ | ⟨servers, _, same, rescaled⟩
    · exact Service.within_of_counts same within
    · rw [rescaled]
      exact Service.within_bothSides (Service.within_of_counts same within) _
  | update profiles specs => exact absurd rfl (kept profiles specs)
  | enable => exact within
  | pass => exact Service.within_of_counts (Service.map_wake (fun _ => rfl) ..) within

theorem takes_le_one (m : Moment) (i : Nat) (action : Action) : m.takes i action ≤ 1 := by
  cases action with
  | acquire excluded => exact List.count_le_length
  | release => exact Nat.zero_le _
  | update => exact Nat.zero_le _
  | enable => exact Nat.zero_le _
  | pass => exact Nat.zero_le _

theorem balance_calm {actions : List Action}
    (fixed : ∀ profiles specs, Action.update profiles specs ∉ actions)
    (steady : ∀ server ∈ m.service.servers, server.slowStart = none)
    (within : ∀ server ∈ m.service.servers, Service.Within server) (calm : m.Calm actions)
    {i : Nat} {server : Server} (found : m.service.servers[i]? = some server) :
    ∃ later, (m.run actions).service.servers[i]? = some later ∧
      later.statsRequests.toNat ≤ server.weight.toNat ∧
      later.statsRequests.toNat + m.passes i actions * server.weight.toNat
        = server.statsRequests.toNat + m.timesTaken i actions := by
  induction actions generalizing m server with
  | nil =>
    refine ⟨server, found, (within server (List.mem_of_getElem? found)).most, ?_⟩
    simp [passes, timesTaken, choices]
  | cons action actions ih =>
    have kept (profiles : Profiles) (specs : List ServerSpec) : action ≠ .update profiles specs :=
      fun same => fixed profiles specs (same ▸ List.mem_cons_self)
    obtain ⟨next, there, weight, le, stats⟩ := countsOn_after kept found
    obtain ⟨later, here, most, sum⟩ := ih
      (fun profiles specs member => fixed profiles specs (List.mem_cons_of_mem _ member))
      (steady_after steady kept) (within_after steady within kept calm.1) calm.2 there
    have own := within server (List.mem_of_getElem? found)
    have counted : (server.statsRequests.toNat + m.takes i action) % UInt32.size
        = server.statsRequests.toNat + m.takes i action :=
      Nat.mod_eq_of_lt (Nat.lt_of_le_of_lt (Nat.add_le_add own.most (takes_le_one ..)) own.room)
    rw [weight] at most sum
    rw [counted] at le stats
    refine ⟨later, here, most, ?_⟩
    rw [timesTaken_cons, passes, Nat.add_mul]
    omega

theorem counters_balance (m : Moment) (actions : List Action)
    (fixed : ∀ profiles specs, Action.update profiles specs ∉ actions) (i : Nat) (server : Server)
    (found : m.service.servers[i]? = some server) :
    ∃ later, (m.run actions).service.servers[i]? = some later ∧
      later.weight = server.weight ∧
      let taken := server.statsRequests.toNat + m.timesTaken i actions
      let off := server.weight.toNat * m.passes i actions
      off ≤ taken ∧ later.statsRequests.toNat = (taken - off) % UInt32.size ∧
      (later.statsRequests.toNat = taken - off ↔ taken - off < UInt32.size) ∧
      ((∀ other ∈ m.service.servers, other.slowStart = none ∧
          other.statsRequests.toNat ≤ other.weight.toNat ∧ other.weight.toNat + 1 < UInt32.size) →
        m.Calm actions →
        later.statsRequests.toNat = taken - off ∧
          later.statsRequests.toNat ≤ server.weight.toNat) := by
  obtain ⟨later, here, weight, le, stats⟩ := balance_run fixed found
  rw [Nat.mul_comm] at le stats
  refine ⟨later, here, weight, le, stats, ?_, ?_⟩
  · rw [stats]
    exact ⟨fun same => same ▸ Nat.mod_lt _ (by decide), Nat.mod_eq_of_lt⟩
  · intro start calm
    obtain ⟨later', here', most, sum⟩ := balance_calm fixed
      (fun other listed => (start other listed).1)
      (fun other listed => ⟨(start other listed).2.1, (start other listed).2.2⟩) calm found
    cases here.symm.trans here'
    rw [Nat.mul_comm] at sum
    exact ⟨by omega, most⟩

-- The second request waits for its answer on a server that has nothing left.
theorem counters_of_three_requests :
    let m := (create "shop" none false {} 0).run
      [.update .empty [{ address := "a:80" }, { address := "b:80", weight := 2 }]]
    let actions : List Action := [.acquire [], .acquire [], .pass 1000,
      .release "default" ⟨1, "b:80", ⟨"http", "b:80"⟩, none, none⟩ false 0 false, .acquire []]
    m.Calm actions ∧ m.timesTaken 1 actions = 2 ∧ m.passes 1 actions = 1 ∧
      ∃ later, (m.run actions).service.servers[1]? = some later ∧
        later.statsRequests.toNat = 0 := by
  intro m actions
  have facts : (m.Calm actions ∧ m.timesTaken 1 actions = 2 ∧ m.passes 1 actions = 1) ∧
      (m.service.servers.map fun server => (server.weight.toNat, server.statsRequests.toNat))[1]?
        = some (2, 0) ∧
      ∀ other ∈ m.service.servers, other.slowStart = none ∧
        other.statsRequests.toNat ≤ other.weight.toNat ∧
          other.weight.toNat + 1 < UInt32.size := by
    decide +kernel +revert
  obtain ⟨⟨calm, times, passes⟩, place, start⟩ := facts
  rw [List.getElem?_map, Option.map_eq_some_iff] at place
  obtain ⟨server, found, numbers⟩ := place
  obtain ⟨weight, none⟩ := Prod.mk.inj numbers
  have fixed (profiles : Profiles) (specs : List ServerSpec) :
      Action.update profiles specs ∉ actions := by simp [actions]
  obtain ⟨later, here, _, _, _, _, exact⟩ := counters_balance m actions fixed 1 server found
  refine ⟨calm, times, passes, later, here, ?_⟩
  rw [(exact start calm).1, weight, none, times, passes]

end Moment

end Balancing
