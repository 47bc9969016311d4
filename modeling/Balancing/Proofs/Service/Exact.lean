import Balancing.Proofs.Choice.Laps
import Balancing.Proofs.Choice.Ranking
import Balancing.Proofs.Service.Moment
import Mathlib.Data.List.Infix

namespace Balancing

namespace Exact

@[ext]
structure Server where
  address : String
  weight : Nat
  rack : Option String
  remote : Bool
  active : Bool
  inFlight : Nat
  -- requests ever taken
  taken : Nat
  deriving DecidableEq, Repr

structure Balancer where
  allowRemote : Bool
  servers : List Server
  deriving DecidableEq, Repr

namespace Server

def isTried (racks : List String) (s : Server) : Bool :=
  match s.rack with
  | some rack => racks.contains rack
  | none => false

def key (racks : List String) (s : Server) : LeastLoaded.Key :=
  toLex (s.remote, toLex (s.isTried racks,
    toLex ((s.inFlight / s.weight : ℚ), (s.taken / s.weight : ℚ))))

def acquire (s : Server) : Server := { s with inFlight := s.inFlight + 1, taken := s.taken + 1 }

def release (s : Server) : Server := { s with inFlight := s.inFlight - 1 }

end Server

namespace Balancer

def racksAt (b : Balancer) (places : List Nat) : List String :=
  places.filterMap fun i => b.servers[i]?.bind (·.rack)

def contenders (b : Balancer) (excluded : List Nat) : List (Server × Nat) :=
  b.servers.zipIdx.filter fun (s, i) =>
    s.active && (b.allowRemote || !s.remote) && !excluded.contains i

-- The first of those with the least key.
def choose? (b : Balancer) (excluded : List Nat) : Option Nat :=
  ((b.contenders excluded).argmin fun c => c.1.key (b.racksAt excluded)).map Prod.snd

def acquire (b : Balancer) (excluded : List Nat) : Option Nat × Balancer :=
  match b.choose? excluded with
  | none => (none, b)
  | some i => (some i, { b with servers := b.servers.modify i Server.acquire })

def release (b : Balancer) (i : Nat) (address : String) : Balancer :=
  match b.servers[i]? with
  | some s =>
    if s.address = address then { b with servers := b.servers.set i s.release } else b
  | none => b

def after (b : Balancer) : Action → Balancer
  | .acquire excluded => (b.acquire excluded).2
  | .release _ entry _ _ adaptive => if adaptive then b else b.release entry.index entry.address
  | .update .. => b
  | .enable _ => b
  | .pass _ => b

-- What each acquire among the actions chooses.
def choices (b : Balancer) : List Action → List (Option Nat)
  | [] => []
  | .acquire excluded :: rest => b.choose? excluded :: (b.after (.acquire excluded)).choices rest
  | action :: rest => (b.after action).choices rest

end Balancer

end Exact

-- The server with the laps of its side put back; a server that is out has lost none.
def Server.exact (datacenter : Option String) (laps : Bool → Nat) (s : Server) : Exact.Server where
  address := s.address
  weight := s.weight.toNat
  rack := s.rack
  remote := s.isRemote datacenter
  active := s.active
  inFlight := s.requests.toNat
  taken := s.statsRequests.toNat
    + (if s.active then laps (s.isRemote datacenter) else 0) * s.weight.toNat

def Service.exact (s : Service) (laps : Bool → Nat) : Exact.Balancer :=
  ⟨s.allowRemote, s.servers.map (Server.exact s.datacenter laps)⟩

-- Numbers whose quotients are told apart.
structure Server.IsSmall (s : Server) : Prop where
  requests : s.requests.toNat < 2 ^ 26
  statsRequests : s.statsRequests.toNat < 2 ^ 26
  weight : s.weight.toNat < 2 ^ 26

theorem Server.active_rescale (s : Server) : s.rescale.active = s.active := by
  unfold rescale
  split <;> rfl

namespace LeastLoaded

variable {servers : List Server} {excluded : List Nat} {datacenter : Option String}

theorem active_of_isEligible {allowRemote : Bool} {s : Server}
    (eligible : isEligible datacenter allowRemote s = true) : s.active = true :=
  (Bool.and_eq_true_iff.mp eligible).1

theorem keyOf_lt_iff_exact (now : Instant) (laps : Bool → Nat) {a b : Server}
    (small : a.IsSmall) (small' : b.IsSmall) (steady : a.slowStart = none)
    (steady' : b.slowStart = none) (active : a.active = true) (active' : b.active = true) :
    keyOf servers excluded datacenter now a < keyOf servers excluded datacenter now b ↔
      (a.exact datacenter laps).key (racksAt servers excluded)
        < (b.exact datacenter laps).key (racksAt servers excluded) := by
  have pos := a.weight_toNat_pos
  have pos' := b.weight_toNat_pos
  have load := Binary64.value_div_lt_iff small.requests pos small.weight small'.requests pos'
    small'.weight
  have load' := Binary64.value_div_lt_iff small'.requests pos' small'.weight small.requests pos
    small.weight
  have stats := Binary64.value_div_lt_iff small.statsRequests pos small.weight
    small'.statsRequests pos' small'.weight
  simp only [keyOf, rank, Rank.key, Server.effectiveWeight_of_none steady,
    Server.effectiveWeight_of_none steady', Exact.Server.key, Exact.Server.isTried, isTriedRack,
    Server.exact, active, active', if_true, Prod.Lex.toLex_lt_toLex]
  refine or_congr_right (and_congr_right fun side => or_congr_right (and_congr_right fun _ => ?_))
  refine or_congr load (and_congr (eq_iff_of_lt_iff load load') ?_)
  -- On one side, the laps put back are one number added to both quotients.
  have lapped (s : Server) : ((s.statsRequests.toNat + laps (b.isRemote datacenter) * s.weight.toNat
      : Nat) : ℚ) / s.weight.toNat = s.statsRequests.toNat / s.weight.toNat
        + laps (b.isRemote datacenter) := by
    have pos : (s.weight.toNat : ℚ) ≠ 0 := by exact_mod_cast s.weight_toNat_pos.ne'
    push_cast
    rw [add_div, mul_div_cancel_right₀ _ pos]
  rw [side, lapped, lapped, add_lt_add_iff_right]
  exact stats

end LeastLoaded

namespace Service

variable {s : Service} {laps : Bool → Nat}

theorem racksAt_exact (s : Service) (laps : Bool → Nat) (places : List Nat) :
    (s.exact laps).racksAt places = LeastLoaded.racksAt s.servers places := by
  unfold Exact.Balancer.racksAt LeastLoaded.racksAt exact
  refine List.filterMap_congr fun i _ => ?_
  rw [List.getElem?_map]
  cases s.servers[i]? <;> rfl

theorem contenders_exact (s : Service) (laps : Bool → Nat) (excluded : List Nat) :
    (s.exact laps).contenders excluded
      = (LeastLoaded.contenders s.servers excluded s.datacenter s.allowRemote).map fun (v, i) =>
        (v.exact s.datacenter laps, i) := by
  unfold Exact.Balancer.contenders LeastLoaded.contenders exact
  rw [List.zipIdx_map, List.filter_map]
  rfl

theorem choose?_exact (small : ∀ server ∈ s.servers, server.IsSmall)
    (steady : ∀ server ∈ s.servers, server.slowStart = none) (laps : Bool → Nat) (now : Instant)
    (excluded : List Nat) :
    LeastLoaded.select? s.servers excluded s.datacenter s.allowRemote now
      = (s.exact laps).choose? excluded := by
  have order : ∀ a ∈ LeastLoaded.contenders s.servers excluded s.datacenter s.allowRemote,
      ∀ b ∈ LeastLoaded.contenders s.servers excluded s.datacenter s.allowRemote,
        LeastLoaded.keyOf s.servers excluded s.datacenter now a.1
            < LeastLoaded.keyOf s.servers excluded s.datacenter now b.1 ↔
          (a.1.exact s.datacenter laps).key (LeastLoaded.racksAt s.servers excluded)
            < (b.1.exact s.datacenter laps).key (LeastLoaded.racksAt s.servers excluded) := by
    intro a member b member'
    obtain ⟨found, eligible, _⟩ := LeastLoaded.mem_contenders.mp member
    obtain ⟨found', eligible', _⟩ := LeastLoaded.mem_contenders.mp member'
    have listed := List.mem_of_getElem? found
    have listed' := List.mem_of_getElem? found'
    exact LeastLoaded.keyOf_lt_iff_exact now laps (small _ listed) (small _ listed')
      (steady _ listed) (steady _ listed') (LeastLoaded.active_of_isEligible eligible)
      (LeastLoaded.active_of_isEligible eligible')
  unfold Exact.Balancer.choose?
  rw [LeastLoaded.select?_eq, argmin_congr order, contenders_exact, argmin_map, Option.map_map,
    racksAt_exact]
  rfl

theorem exact_lower {datacenter : Option String} (more : Bool → Nat) {server : Server}
    (enough : server.active = true →
      more (server.isRemote datacenter) * server.weight.toNat ≤ server.statsRequests.toNat) :
    Server.exact datacenter (fun remote => laps remote + more remote)
        (if server.active then server.lower (more (server.isRemote datacenter)) else server)
      = server.exact datacenter laps := by
  by_cases active : server.active = true
  · have enough := enough active
    rw [if_pos active]
    refine Exact.Server.ext rfl rfl rfl rfl rfl rfl ?_
    show (server.lower _).statsRequests.toNat + (if server.active = true then _ else 0) * _
      = server.statsRequests.toNat + (if server.active = true then _ else 0) * _
    rw [if_pos active, if_pos active, Server.statsRequests_lower]
    show _ + (laps (server.isRemote datacenter) + more (server.isRemote datacenter))
      * server.weight.toNat = _
    rw [Nat.add_mul]
    omega
  · simp [Server.exact, active]

-- Rescaling takes nothing from what is seen without it.
theorem exact_rescale (s : Service) (laps : Bool → Nat) :
    ∃ laps', s.rescale.exact laps' = s.exact laps := by
  obtain ⟨more, areLaps, lowered⟩ := Rescale.bothSides_eq s.datacenter s.servers
  refine ⟨fun remote => laps remote + more remote, ?_⟩
  unfold exact rescale
  dsimp only
  rw [lowered, List.map_map]
  congr 1
  refine List.map_congr_left fun server member => exact_lower more fun active => ?_
  refine (areLaps _).le server member ?_
  rw [Rescale.onSide, active, Bool.true_and]
  exact beq_self_eq_true _

theorem exact_acquire {datacenter : Option String} (laps : Bool → Nat) {server : Server}
    (small : server.IsSmall) :
    server.acquire.exact datacenter laps = (server.exact datacenter laps).acquire := by
  have requests : (server.requests + 1).toNat = server.requests.toNat + 1 := by
    have := small.requests
    rw [UInt32.toNat_add, UInt32.toNat_one]
    exact Nat.mod_eq_of_lt (by omega)
  have stats : (server.statsRequests + 1).toNat = server.statsRequests.toNat + 1 := by
    have := small.statsRequests
    rw [UInt32.toNat_add, UInt32.toNat_one]
    exact Nat.mod_eq_of_lt (by omega)
  refine Exact.Server.ext rfl rfl rfl rfl rfl requests ?_
  show (server.statsRequests + 1).toNat + _ = server.statsRequests.toNat + _ + 1
  rw [stats]
  exact Nat.add_right_comm ..

theorem acquire_exact (small : ∀ server ∈ s.servers, server.IsSmall)
    (steady : ∀ server ∈ s.servers, server.slowStart = none) (laps : Bool → Nat) (now : Instant)
    (excluded : List Nat) :
    (s.acquire now excluded).1.map (·.index) = (s.exact laps).choose? excluded ∧
      ∃ laps', (s.acquire now excluded).2.exact laps' = ((s.exact laps).acquire excluded).2 := by
  have choice := choose?_exact small steady laps now excluded
  unfold Exact.Balancer.acquire acquire
  rw [← choice]
  cases chosen : LeastLoaded.select? s.servers excluded s.datacenter s.allowRemote now with
  | none => exact ⟨rfl, laps, rfl⟩
  | some i =>
    obtain ⟨server, contends, _⟩ := LeastLoaded.select?_some chosen
    have found := (LeastLoaded.mem_contenders.mp contends).1
    dsimp only
    rw [found]
    refine ⟨rfl, ?_⟩
    obtain ⟨laps', same⟩ := exact_rescale (s.setServer i server.acquire) laps
    refine ⟨laps', same.trans ?_⟩
    have listed := List.mem_of_getElem? found
    unfold exact setServer
    dsimp only
    rw [List.map_set, exact_acquire laps (small server listed), List.modify_eq_set_getElem?,
      List.getElem?_map, found]
    rfl

-- An operation that leaves all of this as it is cannot be seen at all.
theorem exact_congr {s' : Service} (datacenter : s'.datacenter = s.datacenter)
    (allowRemote : s'.allowRemote = s.allowRemote)
    (servers : s'.servers.map (Server.exact s.datacenter laps)
      = s.servers.map (Server.exact s.datacenter laps)) : s'.exact laps = s.exact laps := by
  unfold exact
  rw [datacenter, allowRemote, servers]

theorem release_absent (laps : Bool → Nat) {entry : Entry} (gone : s.serverOf? entry = none) :
    (s.exact laps).release entry.index entry.address = s.exact laps := by
  unfold serverOf? at gone
  unfold Exact.Balancer.release exact
  dsimp only
  rw [List.getElem?_map]
  cases there : s.servers[entry.index]? with
  | none => rfl
  | some server =>
    rw [there] at gone
    dsimp only [Option.map_some] at gone ⊢
    split at gone
    · cases gone
    · rename_i other
      exact if_neg other

theorem release_exact (laps : Bool → Nat) (now : Instant) (profile : String) (entry : Entry)
    (isError : Bool) (micros : UInt64) (adaptive : Bool)
    (flags : (s.release now profile entry isError micros adaptive).1.servers.map (·.active)
      = s.servers.map (·.active)) :
    (s.release now profile entry isError micros adaptive).1.exact laps
      = if adaptive then s.exact laps else (s.exact laps).release entry.index entry.address := by
  cases reached : s.serverOf? entry with
  | none =>
    rw [release_of_none reached, release_absent laps reached, ite_self]
  | some server =>
    obtain ⟨found, address⟩ := serverOf?_eq_some_iff.mp reached
    cases adaptive with
    | true =>
      rw [release_adaptive reached, if_pos rfl]
      refine exact_congr rfl rfl ?_
      show (s.servers.set _ _).map _ = _
      rw [List.map_set]
      refine map_set_same found ?_
      unfold Server.recordOutcome
      split <;> rfl
    | false =>
      rcases release_static reached now profile isError micros with stays | ⟨p, _, suspends, leaves⟩
      · have requests : (server.release isError).requests.toNat = server.requests.toNat - 1 :=
          toNat_countedOff server.requests
        have released : (server.release isError).exact s.datacenter laps
            = (server.exact s.datacenter laps).release :=
          Exact.Server.ext rfl rfl rfl rfl rfl requests rfl
        rw [stays, if_neg Bool.false_ne_true]
        unfold Exact.Balancer.release exact setServer
        dsimp only
        rw [List.map_set, released, List.getElem?_map, found]
        exact (if_pos address).symm
      · -- taking the server out would have changed its flag
        have active : server.active = true := (of_suspends suspends).2
        have after := congrArg (·[entry.index]?) flags
        have inside := (List.getElem?_eq_some_iff.mp found).1
        rw [leaves, map_suspend Server.active_rescale,
          List.getElem?_set_self (by simpa using inside), List.getElem?_map, found,
          Option.map_some, active] at after
        cases after

theorem wake_exact (laps : Bool → Nat) (now : Instant)
    (flags : (s.wake now).servers.map (·.active) = s.servers.map (·.active)) :
    (s.wake now).exact laps = s.exact laps := by
  rw [wake_eq] at flags ⊢
  refine exact_congr rfl rfl ?_
  dsimp only at flags ⊢
  unfold reactivate at flags ⊢
  rw [List.map_map] at flags ⊢
  refine List.map_congr_left fun server member => ?_
  have same := List.map_inj_left.mp flags server member
  rw [Function.comp_apply] at same ⊢
  split
  · rename_i due
    rw [if_pos due] at same
    have same : server.activate.active = server.active := same
    refine Exact.Server.ext rfl rfl rfl rfl same rfl ?_
    show _ + (if server.activate.active = true then _ else 0) * _
      = _ + (if server.active = true then _ else 0) * _
    rw [same]
    rfl
  · rfl

end Service

namespace Moment

variable {m : Moment} {laps : Bool → Nat}

theorem steady_after (steady : ∀ server ∈ m.service.servers, server.slowStart = none)
    {action : Action} (kept : ∀ profiles specs, action ≠ .update profiles specs) :
    ∀ server ∈ (m.after action).service.servers, server.slowStart = none := by
  have same : (m.after action).service.servers.map (·.slowStart)
      = m.service.servers.map (·.slowStart) := by
    cases action with
    | acquire excluded => exact Service.map_acquire Server.fixed_slowStart ..
    | release => exact Service.map_release Server.fixed_slowStart ..
    | update profiles specs => exact absurd rfl (kept profiles specs)
    | enable => rfl
    | pass => exact Service.map_wake Server.fixed_slowStart.activate ..
  intro server member
  have listed : server.slowStart ∈ m.service.servers.map (·.slowStart) := by
    rw [← same]
    exact List.mem_map_of_mem member
  obtain ⟨old, member, equal⟩ := List.mem_map.mp listed
  rw [← equal]
  exact steady old member

theorem exact_after (small : ∀ server ∈ m.service.servers, server.IsSmall)
    (steady : ∀ server ∈ m.service.servers, server.slowStart = none) {action : Action}
    (kept : ∀ profiles specs, action ≠ .update profiles specs)
    (flags : (m.after action).service.servers.map (·.active) = m.service.servers.map (·.active))
    (laps : Bool → Nat) :
    ∃ laps', (m.after action).service.exact laps' = (m.service.exact laps).after action := by
  cases action with
  | acquire excluded => exact (Service.acquire_exact small steady laps m.clock excluded).2
  | release profile entry isError micros adaptive =>
    exact ⟨laps, Service.release_exact laps m.clock profile entry isError micros adaptive flags⟩
  | update profiles specs => exact absurd rfl (kept profiles specs)
  | enable enabled => exact ⟨laps, rfl⟩
  | pass nanoseconds => exact ⟨laps, Service.wake_exact laps _ flags⟩

-- What each acquire among the actions chooses.
def choices (m : Moment) : List Action → List (Option Nat)
  | [] => []
  | .acquire excluded :: rest =>
    (m.service.acquire m.clock excluded).1.map (·.index)
      :: (m.after (.acquire excluded)).choices rest
  | action :: rest => (m.after action).choices rest

-- What has to hold at every moment of a run for the quotients to order as the ratios do.
structure Steady (m : Moment) (actions : List Action) : Prop where
  fixed : ∀ profiles specs, Action.update profiles specs ∉ actions
  warm : ∀ server ∈ m.service.servers, server.slowStart = none
  flags : ∀ past, past <+: actions →
    (m.run past).service.servers.map (·.active) = m.service.servers.map (·.active)
  small : ∀ past, past <+: actions → ∀ server ∈ (m.run past).service.servers, server.IsSmall

theorem Steady.tail {action : Action} {actions : List Action}
    (steady : m.Steady (action :: actions)) : (m.after action).Steady actions := by
  have first := steady.flags [action] (List.prefix_append ..)
  constructor
  · intro profiles specs later
    exact steady.fixed profiles specs (List.mem_cons_of_mem _ later)
  · refine steady_after steady.warm fun profiles specs same => ?_
    exact steady.fixed profiles specs (same ▸ List.mem_cons_self)
  · intro past early
    have whole := steady.flags (action :: past) ((List.prefix_cons_inj action).mpr early)
    exact whole.trans first.symm
  · intro past early
    exact steady.small (action :: past) ((List.prefix_cons_inj action).mpr early)

theorem choices_eq {actions : List Action} (steady : m.Steady actions) (laps : Bool → Nat) :
    m.choices actions = (m.service.exact laps).choices actions := by
  induction actions generalizing m laps with
  | nil => rfl
  | cons action actions ih =>
    have small : ∀ server ∈ m.service.servers, server.IsSmall := steady.small [] List.nil_prefix
    have kept (profiles : Profiles) (specs : List ServerSpec) : action ≠ .update profiles specs :=
      fun same => steady.fixed profiles specs (same ▸ List.mem_cons_self)
    have flags := steady.flags [action] (List.prefix_append ..)
    obtain ⟨laps', seen⟩ := exact_after small steady.warm kept flags laps
    have rest := ih steady.tail laps'
    rw [seen] at rest
    cases action with
    | acquire excluded =>
      rw [choices, Exact.Balancer.choices, rest,
        (Service.acquire_exact small steady.warm laps m.clock excluded).1]
    | release => exact rest
    | update profiles specs => exact absurd rfl (kept profiles specs)
    | enable => exact rest
    | pass => exact rest

theorem choices_eq_exact (m : Moment) (actions : List Action)
    (fixed : ∀ profiles specs, Action.update profiles specs ∉ actions)
    (warm : ∀ server ∈ m.service.servers, server.slowStart = none)
    (flags : ∀ past, past <+: actions →
      (m.run past).service.servers.map (·.active) = m.service.servers.map (·.active))
    (small : ∀ past, past <+: actions → ∀ server ∈ (m.run past).service.servers,
      server.requests.toNat < 2 ^ 26 ∧ server.statsRequests.toNat < 2 ^ 26 ∧
        server.weight.toNat < 2 ^ 26) :
    m.choices actions = (m.service.exact fun _ => 0).choices actions := by
  refine choices_eq ⟨fixed, warm, flags, fun past early server member => ?_⟩ _
  obtain ⟨requests, statsRequests, weight⟩ := small past early server member
  exact ⟨requests, statsRequests, weight⟩

-- Both sides are rescaled on the way: the local servers after the fourth acquire, the remote one
-- after the fifth.
theorem same_choices_over_both_sides :
    let m := (create "shop" (some "here") true {} 0).run [.update .empty
      [{ address := "a:80", datacenter := some "here" },
        { address := "b:80", datacenter := some "here", weight := 3 },
        { address := "c:80", datacenter := some "there" }]]
    let entry : Entry := ⟨0, "a:80", ⟨"http", "a:80"⟩, some "here", none⟩
    let actions : List Action := [.acquire [], .acquire [], .acquire [], .acquire [],
      .acquire [0, 1], .pass 1000, .release "default" entry false 0 false,
      .acquire [], .acquire [1], .acquire []]
    m.choices actions = [some 0, some 1, some 1, some 1, some 2, some 0, some 0, some 1] ∧
      (m.service.exact fun _ => 0).choices actions = m.choices actions := by
  intro m entry actions
  have facts : m.choices actions
      = [some 0, some 1, some 1, some 1, some 2, some 0, some 0, some 1] ∧
      (∀ server ∈ m.service.servers, server.slowStart = none) ∧
      ∀ past ∈ actions.inits,
        (m.run past).service.servers.map (·.active) = m.service.servers.map (·.active) ∧
        ∀ server ∈ (m.run past).service.servers, server.requests.toNat < 2 ^ 26 ∧
          server.statsRequests.toNat < 2 ^ 26 ∧ server.weight.toNat < 2 ^ 26 := by
    decide +kernel +revert
  refine ⟨facts.1, (choices_eq_exact m actions ?_ facts.2.1 ?_ ?_).symm⟩
  · intro profiles specs update
    simp [actions] at update
  · intro past early
    exact (facts.2.2 past ((List.mem_inits _ _).mpr early)).1
  · intro past early
    exact (facts.2.2 past ((List.mem_inits _ _).mpr early)).2

end Moment

end Balancing
