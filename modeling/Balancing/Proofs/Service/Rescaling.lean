import Balancing.Proofs.Choice.Laps
import Balancing.Proofs.Choice.Ranking
import Balancing.Proofs.Service.Moment

namespace Balancing

namespace Rescale

variable {datacenter : Option String} {remote : Bool} {servers : List Server}

-- Runs of the loop over one side, with their passes: a pass while all members have their weight.
inductive Loop (side : Server → Bool) : List Server → Nat → List Server → Prop where
  | stop {servers : List Server} (short : isSaturated side servers = false) :
      Loop side servers 0 servers
  | again {servers ended : List Server} {passes : Nat} (full : isSaturated side servers = true)
      (rest : Loop side (pass side servers) passes ended) : Loop side servers (passes + 1) ended

theorem Loop.unique {side : Server → Bool} {ended ended' : List Server} {n n' : Nat}
    (one : Loop side servers n ended) (other : Loop side servers n' ended') :
    n = n' ∧ ended = ended' := by
  induction one generalizing n' with
  | stop short =>
    cases other with
    | stop => exact ⟨rfl, rfl⟩
    | again full => simp [short] at full
  | again full rest ih =>
    cases other with
    | stop short => simp [full] at short
    | again _ rest' =>
      obtain ⟨same, ended⟩ := ih rest'
      exact ⟨congrArg (· + 1) same, ended⟩

theorem loop_passes (datacenter : Option String) (remote : Bool) (servers : List Server) :
    Loop (onSide datacenter remote) servers (passes datacenter remote servers)
      (oneSide datacenter remote servers) := by
  fun_induction passes datacenter remote servers with
  | case1 servers full ih =>
    rw [oneSide, if_pos full]
    exact .again full ih
  | case2 servers short =>
    rw [oneSide, if_neg short]
    exact .stop (Bool.not_eq_true _ ▸ short)

def wholeWeights (s : Server) : Nat := s.statsRequests.toNat / s.weight.toNat

def members (datacenter : Option String) (remote : Bool) (servers : List Server) : List Server :=
  servers.filter (onSide datacenter remote)

-- The fewest whole weights that a member of the side has; none without members.
def fewest (datacenter : Option String) (servers : List Server) (remote : Bool) : Nat :=
  ((members datacenter remote servers).map wholeWeights).min?.getD 0

theorem mem_members {s : Server} :
    s ∈ members datacenter remote servers ↔ s ∈ servers ∧ onSide datacenter remote s = true :=
  List.mem_filter

theorem le_wholeWeights_iff {s : Server} {laps : Nat} :
    laps ≤ wholeWeights s ↔ laps * s.weight.toNat ≤ s.statsRequests.toNat :=
  Nat.le_div_iff_mul_le s.weight_toNat_pos

theorem fewest_of_areLaps {laps : Nat} (areLaps : AreLaps datacenter remote servers laps)
    (nonempty : members datacenter remote servers ≠ []) :
    fewest datacenter servers remote = laps := by
  have le (s : Server) (member : s ∈ members datacenter remote servers) : laps ≤ wholeWeights s :=
    le_wholeWeights_iff.mpr
      (areLaps.le s (mem_members.mp member).1 (mem_members.mp member).2)
  obtain ⟨first, member⟩ := List.exists_mem_of_ne_nil _ nonempty
  obtain ⟨least, listed, side, less⟩ := areLaps.least ⟨first, mem_members.mp member⟩
  have among : least ∈ members datacenter remote servers := mem_members.mpr ⟨listed, side⟩
  have whole : wholeWeights least = laps := by
    apply Nat.le_antisymm
    · apply Nat.le_of_lt_succ
      exact (Nat.div_lt_iff_lt_mul least.weight_toNat_pos).mpr less
    · exact le least among
  have minimum : ((members datacenter remote servers).map wholeWeights).min? = some laps := by
    apply List.min?_eq_some_iff.mpr
    constructor
    · exact List.mem_map.mpr ⟨least, among, whole⟩
    · intro n listed
      obtain ⟨s, member, rfl⟩ := List.mem_map.mp listed
      exact le s member
  simp [fewest, minimum]

theorem fewest_of_nobody (nobody : members datacenter remote servers = []) :
    fewest datacenter servers remote = 0 := by
  simp [fewest, nobody]

theorem passes_eq_fewest (datacenter : Option String) (remote : Bool) (servers : List Server) :
    passes datacenter remote servers = fewest datacenter servers remote := by
  by_cases nobody : members datacenter remote servers = []
  · have short : ¬isSaturated (onSide datacenter remote) servers = true := by
      intro full
      obtain ⟨s, listed, side⟩ := (isSaturated_iff.mp full).1
      have member := mem_members.mpr ⟨listed, side⟩
      simp [nobody] at member
    rw [fewest_of_nobody nobody, passes, if_neg short]
  · exact (fewest_of_areLaps (areLaps_passes datacenter remote servers) nobody).symm

-- The passes over one side do not change what the members of the other have.
theorem members_lowered {other : Bool} (differ : other ≠ remote) (taken : Nat) :
    members datacenter remote (servers.map (lowered datacenter other taken))
      = members datacenter remote servers := by
  unfold members
  induction servers with
  | nil => rfl
  | cons s servers ih =>
    simp only [List.map_cons, List.filter_cons, onSide_lowered, ih]
    split
    · rename_i side
      rw [lowered_of_onSide differ taken side]
    · rfl

theorem laps_eq_fewest (datacenter : Option String) (servers : List Server) (remote : Bool) :
    laps datacenter servers remote = fewest datacenter servers remote := by
  cases remote with
  | false => exact passes_eq_fewest datacenter false servers
  | true =>
    have passed := passes_eq_fewest datacenter true (oneSide datacenter false servers)
    rw [oneSide_eq datacenter false, fewest, members_lowered Bool.false_ne_true] at passed
    rw [laps, if_pos rfl, oneSide_eq datacenter false, passed, fewest]

theorem areLaps_fewest (datacenter : Option String) (servers : List Server) (remote : Bool) :
    AreLaps datacenter remote servers (fewest datacenter servers remote) := by
  rw [← laps_eq_fewest]
  exact areLaps_laps datacenter servers remote

-- The two loops one after the other, the local side first.
theorem loops_bothSides (datacenter : Option String) (servers : List Server) :
    Loop (onSide datacenter false) servers (fewest datacenter servers false)
      (oneSide datacenter false servers) ∧
    Loop (onSide datacenter true) (oneSide datacenter false servers)
      (fewest datacenter servers true) (bothSides datacenter servers) := by
  constructor
  · rw [← passes_eq_fewest]
    exact loop_passes datacenter false servers
  · rw [← laps_eq_fewest]
    exact loop_passes datacenter true (oneSide datacenter false servers)

theorem bothSides_fewest (datacenter : Option String) (servers : List Server) :
    bothSides datacenter servers = servers.map fun s =>
      if s.active then s.lower (fewest datacenter servers (s.isRemote datacenter)) else s := by
  simp only [bothSides_laps, laps_eq_fewest]

-- A side that has members has one below its weight.
def Unsaturated (datacenter : Option String) (servers : List Server) : Prop :=
  ∀ remote, (∃ s ∈ servers, onSide datacenter remote s = true) →
    ∃ s ∈ servers, onSide datacenter remote s = true ∧ s.statsRequests < s.weight

theorem unsaturated_bothSides (datacenter : Option String) (servers : List Server) :
    Unsaturated datacenter (bothSides datacenter servers) := by
  intro remote member
  simp only [bothSides_fewest, List.mem_map] at member ⊢
  have kept (s : Server) (laps : Nat) :
      onSide datacenter remote (if s.active then s.lower laps else s)
        = onSide datacenter remote s := by
    split <;> rfl
  obtain ⟨_, ⟨s, listed, rfl⟩, side⟩ := member
  rw [kept] at side
  obtain ⟨least, listed, side, less⟩ :=
    (areLaps_fewest datacenter servers remote).least ⟨s, listed, side⟩
  refine ⟨_, ⟨least, listed, rfl⟩, (kept least _).trans side, ?_⟩
  obtain ⟨active, here⟩ := isRemote_of_onSide side
  have positive := least.weight_toNat_pos
  rw [if_pos active, here, UInt32.lt_iff_toNat_lt, Server.statsRequests_lower]
  show _ < least.weight.toNat
  rw [Nat.succ_mul] at less
  omega

end Rescale

namespace Service

open Rescale

variable {s : Service}

-- A server that was in the rotation is out of it.
def TakesOut (s after : Service) : Prop :=
  ∃ i : Nat, (s.servers.map (·.active))[i]? = some true ∧
    (after.servers.map (·.active))[i]? = some false

theorem not_takesOut_of_same {after : Service}
    (same : after.servers.map (·.active) = s.servers.map (·.active)) : ¬TakesOut s after := by
  rintro ⟨i, inside, outside⟩
  simp [same, inside] at outside

theorem unsaturated_acquire {now : Instant} {excluded : List Nat} {entry : Entry}
    (acquired : (s.acquire now excluded).1 = some entry) :
    Unsaturated s.datacenter (s.acquire now excluded).2.servers := by
  cases acquire_cases s now excluded with
  | inl nothing => simp [nothing] at acquired
  | inr lent =>
    obtain ⟨i, server, _, lent⟩ := lent
    rw [lent]
    exact unsaturated_bothSides s.datacenter _

theorem unsaturated_release {now : Instant} {profile : String} {entry : Entry} {isError : Bool}
    {micros : UInt64} {adaptive : Bool}
    (out : TakesOut s (s.release now profile entry isError micros adaptive).1) :
    Unsaturated s.datacenter (s.release now profile entry isError micros adaptive).1.servers := by
  cases reached : s.serverOf? entry with
  | none =>
    rw [release_of_none reached] at out
    exact absurd out (not_takesOut_of_same rfl)
  | some server =>
    have found := (serverOf?_eq_some_iff.mp reached).1
    cases adaptive with
    | true =>
      have same : ∀ (s : Server) isError micros,
          (s.recordOutcome isError micros).active = s.active := by
        intro s isError micros
        unfold Server.recordOutcome
        split <;> rfl
      exact absurd out (not_takesOut_of_same (map_release_adaptive same ..))
    | false =>
      cases release_static reached now profile isError micros with
      | inl stays =>
        rw [stays] at out
        refine absurd out (not_takesOut_of_same ?_)
        simp only [setServer, List.map_set]
        exact map_set_same (f := Server.active) found rfl
      | inr leaves =>
        obtain ⟨p, _, _, leaves⟩ := leaves
        rw [leaves]
        exact unsaturated_bothSides s.datacenter _

-- Every run of the two loops, what they take, and what holds right after they have run.
theorem rescaling_takes_fewest (s : Service) :
    let k := fewest s.datacenter s.servers
    (∀ n n' ended, (∃ middle, Loop (onSide s.datacenter false) s.servers n middle ∧
        Loop (onSide s.datacenter true) middle n' ended) ↔
      n = k false ∧ n' = k true ∧ ended = s.rescale.servers) ∧
    s.rescale = { s with servers := s.servers.map fun server =>
      if server.active then server.lower (k (server.isRemote s.datacenter)) else server } ∧
    (∀ server ∈ s.servers, server.active = true →
      let taken := k (server.isRemote s.datacenter) * server.weight.toNat
      taken ≤ server.statsRequests.toNat ∧
        (server.lower (k (server.isRemote s.datacenter))).statsRequests.toNat
          = server.statsRequests.toNat - taken) ∧
    (∀ now excluded entry, (s.acquire now excluded).1 = some entry →
      Unsaturated s.datacenter (s.acquire now excluded).2.servers) ∧
    ∀ now profile entry isError micros adaptive,
      let after := (s.release now profile entry isError micros adaptive).1
      TakesOut s after → Unsaturated s.datacenter after.servers := by
  intro k
  refine ⟨?_, ?_, ?_, fun _ _ _ => unsaturated_acquire, fun _ _ _ _ _ _ => unsaturated_release⟩
  · intro n n' ended
    obtain ⟨near, far⟩ := loops_bothSides s.datacenter s.servers
    constructor
    · rintro ⟨middle, first, second⟩
      obtain ⟨passes, rfl⟩ := first.unique near
      obtain ⟨passes', rfl⟩ := second.unique far
      exact ⟨passes, passes', rfl⟩
    · rintro ⟨rfl, rfl, rfl⟩
      exact ⟨_, near, far⟩
  · simp only [rescale, bothSides_fewest]
    rfl
  · intro server listed active
    have areLaps := areLaps_fewest s.datacenter s.servers (server.isRemote s.datacenter)
    exact ⟨areLaps.le server listed (onSide_of_active active), Server.statsRequests_lower ..⟩

-- Two laps over the local side and one over the other; then an error takes a local server out.
theorem laps_of_both_sides :
    let m := (Moment.create "shop" (some "dc1") true {} 0).run [.update .empty
      [{ address := "a:80", weight := 2, datacenter := some "dc1" },
       { address := "b:80", weight := 1, datacenter := some "dc1" },
       { address := "c:80", weight := 3, datacenter := some "dc2" }]]
    let s : Service := { m.service with
      servers := m.service.servers.zipWith (fun server n => { server with statsRequests := n })
        [5, 7, 4] }
    let acquired := s.acquire 0 []
    s.rescale.servers.map (·.statsRequests) = [1, 5, 1] ∧
    (∃ middle, Loop (onSide s.datacenter false) s.servers 2 middle ∧
      Loop (onSide s.datacenter true) middle 1 s.rescale.servers) ∧
    ∃ entry, acquired.1 = some entry ∧ Unsaturated s.datacenter acquired.2.servers ∧
      let after := (acquired.2.release 0 "default" entry true 0 false).1
      TakesOut acquired.2 after ∧ Unsaturated s.datacenter after.servers := by
  intro m s acquired
  have counters : s.rescale.servers.map (·.statsRequests) = [1, 5, 1] := by decide +kernel +revert
  have laps : fewest s.datacenter s.servers false = 2 ∧ fewest s.datacenter s.servers true = 1 := by
    decide +kernel +revert
  have outcome : ∀ entry ∈ acquired.1,
      let after := (acquired.2.release 0 "default" entry true 0 false).1
      (acquired.2.servers.map (·.active))[0]? = some true ∧
        (after.servers.map (·.active))[0]? = some false := by
    decide +kernel +revert
  have lent : acquired.1.isSome = true := by decide +kernel +revert
  obtain ⟨entry, lent⟩ := Option.isSome_iff_exists.mp lent
  obtain ⟨loops, _, _, acquires, _⟩ := rescaling_takes_fewest s
  obtain ⟨_, _, _, _, releases⟩ := rescaling_takes_fewest acquired.2
  have out : TakesOut acquired.2 (acquired.2.release 0 "default" entry true 0 false).1 :=
    ⟨0, outcome entry lent⟩
  have same : acquired.2.datacenter = s.datacenter :=
    (congrArg Service.datacenter (shell_acquire s 0 []) :)
  refine ⟨counters, (loops 2 1 _).mpr ⟨laps.1.symm, laps.2.symm, rfl⟩, entry, lent,
    acquires 0 [] entry lent, out, ?_⟩
  rw [← same]
  exact releases 0 "default" entry true 0 false out

end Service

end Balancing
