import Balancing.Choice.Rescale

namespace Balancing

namespace Server

-- The server with `laps` weights taken off.
def lower (s : Server) (laps : Nat) : Server :=
  { s with statsRequests := .ofNat (s.statsRequests.toNat - laps * s.weight.toNat) }

theorem statsRequests_lower (s : Server) (laps : Nat) :
    (s.lower laps).statsRequests.toNat = s.statsRequests.toNat - laps * s.weight.toNat := by
  have lt := s.statsRequests.toNat_lt
  show (UInt32.ofNat _).toNat = _
  rw [UInt32.toNat_ofNat']
  omega

theorem lower_zero (s : Server) : s.lower 0 = s := by
  unfold lower
  rw [Nat.zero_mul, Nat.sub_zero, UInt32.ofNat_toNat]

theorem rescale_eq_lower {s : Server} (full : s.weight ≤ s.statsRequests) :
    s.rescale = s.lower 1 := by
  have taken : (s.lower 1).statsRequests = s.statsRequests - s.weight := by
    rw [← UInt32.toNat_inj, statsRequests_lower, Nat.one_mul, UInt32.toNat_sub_of_le _ _ full]
  rw [rescale, if_pos full, ← taken]
  rfl

theorem lower_lower (s : Server) (more laps : Nat) : (s.lower more).lower laps
    = s.lower (laps + more) := by
  have same :
      ((s.lower more).lower laps).statsRequests = (s.lower (laps + more)).statsRequests := by
    rw [← UInt32.toNat_inj, statsRequests_lower, statsRequests_lower, statsRequests_lower,
      Nat.add_mul]
    show _ - _ - laps * s.weight.toNat = _
    omega
  simp only [lower] at same ⊢
  rw [same]

end Server

namespace Rescale

variable {datacenter : Option String} {remote : Bool} {servers : List Server}

theorem onSide_lower (s : Server) (laps : Nat) :
    onSide datacenter remote (s.lower laps) = onSide datacenter remote s := rfl

theorem onSide_of_active {s : Server} (active : s.active = true) :
    onSide datacenter (s.isRemote datacenter) s := by
  rw [onSide, active, Bool.true_and]
  exact beq_self_eq_true _

-- The laps of one side: every member has them, and one has no more.
structure AreLaps (datacenter : Option String) (remote : Bool) (servers : List Server)
    (laps : Nat) : Prop where
  le : ∀ s ∈ servers, onSide datacenter remote s →
    laps * s.weight.toNat ≤ s.statsRequests.toNat
  least : (∃ s ∈ servers, onSide datacenter remote s) →
    ∃ s ∈ servers, onSide datacenter remote s ∧
      s.statsRequests.toNat < (laps + 1) * s.weight.toNat

theorem isSaturated_iff {side : Server → Bool} :
    isSaturated side servers ↔ (∃ s ∈ servers, side s) ∧
      ∀ s ∈ servers, side s → s.weight.toNat ≤ s.statsRequests.toNat := by
  unfold isSaturated
  rw [Bool.and_eq_true, List.any_eq_true, List.all_eq_true]
  refine and_congr_right fun _ => forall₂_congr fun s _ => ?_
  cases side s with
  | false => simp
  | true => simp [UInt32.le_iff_toNat_le]

def lowered (datacenter : Option String) (remote : Bool) (laps : Nat) (s : Server) : Server :=
  if onSide datacenter remote s then s.lower laps else s

theorem areLaps_pass (full : isSaturated (onSide datacenter remote) servers) {laps : Nat}
    (later : AreLaps datacenter remote (pass (onSide datacenter remote) servers) laps) :
    AreLaps datacenter remote servers (laps + 1) := by
  have weights := (isSaturated_iff.mp full).2
  have passed (s : Server) (member : s ∈ servers) (side : onSide datacenter remote s) :
      s.lower 1 ∈ pass (onSide datacenter remote) servers := by
    have full : s.weight ≤ s.statsRequests := UInt32.le_iff_toNat_le.mpr (weights s member side)
    rw [← Server.rescale_eq_lower full]
    exact List.mem_map.mpr ⟨s, member, if_pos side⟩
  constructor
  · intro s member side
    have rest := later.le _ (passed s member side) side
    have one := weights s member side
    rw [Server.statsRequests_lower] at rest
    have rest : laps * s.weight.toNat ≤ s.statsRequests.toNat - 1 * s.weight.toNat := rest
    rw [Nat.succ_mul]
    omega
  · rintro ⟨s, member, side⟩
    obtain ⟨t, among, side', less⟩ := later.least ⟨_, passed s member side, side⟩
    obtain ⟨u, member', rfl⟩ := List.mem_map.mp among
    by_cases here : onSide datacenter remote u
    · have one := weights u member' here
      rw [if_pos here, Server.rescale_eq_lower (UInt32.le_iff_toNat_le.mpr one),
        Server.statsRequests_lower] at less
      have less : u.statsRequests.toNat - 1 * u.weight.toNat < (laps + 1) * u.weight.toNat := less
      refine ⟨u, member', here, ?_⟩
      rw [Nat.succ_mul]
      omega
    · rw [if_neg here] at side'
      exact absurd side' here

theorem lowered_pass (full : isSaturated (onSide datacenter remote) servers) (laps : Nat) :
    (pass (onSide datacenter remote) servers).map (lowered datacenter remote laps)
      = servers.map (lowered datacenter remote (laps + 1)) := by
  rw [pass, List.map_map]
  refine List.map_congr_left fun s member => ?_
  unfold lowered
  rw [Function.comp_apply]
  by_cases side : onSide datacenter remote s
  · have one := (isSaturated_iff.mp full).2 s member side
    rw [if_pos side, if_pos side, Server.rescale_eq_lower (UInt32.le_iff_toNat_le.mpr one),
      onSide_lower, if_pos side, Server.lower_lower]
  · rw [if_neg side, if_neg side, if_neg side]

-- How often the loop over one side takes its pass.
def passes (datacenter : Option String) (remote : Bool) (servers : List Server) : Nat :=
  if isSaturated (onSide datacenter remote) servers then
    passes datacenter remote (pass (onSide datacenter remote) servers) + 1
  else 0
termination_by taken (onSide datacenter remote) servers
decreasing_by exact taken_pass_lt (onSide_rescale datacenter remote) ‹_›

theorem areLaps_passes (datacenter : Option String) (remote : Bool) (servers : List Server) :
    AreLaps datacenter remote servers (passes datacenter remote servers) := by
  fun_induction passes datacenter remote servers with
  | case1 servers full ih => exact areLaps_pass full ih
  | case2 servers short =>
    refine ⟨fun _ _ _ => by omega, fun member => ?_⟩
    refine Classical.byContradiction fun none => ?_
    refine short (isSaturated_iff.mpr ⟨member, fun s among side => ?_⟩)
    refine Nat.le_of_not_lt fun less => none ⟨s, among, side, ?_⟩
    omega

theorem oneSide_eq (datacenter : Option String) (remote : Bool) (servers : List Server) :
    oneSide datacenter remote servers
      = servers.map (lowered datacenter remote (passes datacenter remote servers)) := by
  fun_induction passes datacenter remote servers with
  | case1 servers full ih =>
    rw [oneSide, if_pos full, ih]
    exact lowered_pass full _
  | case2 servers short =>
    have same : lowered datacenter remote 0 = id := by
      funext s
      simp [lowered, Server.lower_zero]
    rw [oneSide, if_neg short, same, List.map_id]

theorem isRemote_of_onSide {s : Server} (side : onSide datacenter remote s) :
    s.active = true ∧ s.isRemote datacenter = remote := by
  unfold onSide at side
  rw [Bool.and_eq_true, beq_iff_eq] at side
  exact side

theorem onSide_lowered (other : Bool) (laps : Nat) (s : Server) :
    onSide datacenter remote (lowered datacenter other laps s) = onSide datacenter remote s := by
  unfold lowered
  split <;> rfl

-- What is taken off one side leaves the servers of the other as they are.
theorem lowered_of_onSide {other : Bool} (differ : other ≠ remote) (laps : Nat) {s : Server}
    (side : onSide datacenter remote s) : lowered datacenter other laps s = s := by
  refine if_neg fun here => differ ?_
  rw [← (isRemote_of_onSide here).2, (isRemote_of_onSide side).2]

theorem areLaps_lowered {other : Bool} (differ : other ≠ remote) {taken laps : Nat}
    (areLaps : AreLaps datacenter remote (servers.map (lowered datacenter other taken)) laps) :
    AreLaps datacenter remote servers laps := by
  have kept {s : Server} (member : s ∈ servers) (side : onSide datacenter remote s) :
      s ∈ servers.map (lowered datacenter other taken) :=
    List.mem_map.mpr ⟨s, member, lowered_of_onSide differ taken side⟩
  constructor
  · intro s member side
    exact areLaps.le s (kept member side) side
  · rintro ⟨s, member, side⟩
    obtain ⟨t, among, side', less⟩ := areLaps.least ⟨s, kept member side, side⟩
    obtain ⟨u, member', rfl⟩ := List.mem_map.mp among
    rw [onSide_lowered] at side'
    rw [lowered_of_onSide differ taken side'] at less
    exact ⟨u, member', side', less⟩

-- The passes over each side, the local one first.
def laps (datacenter : Option String) (servers : List Server) (remote : Bool) : Nat :=
  if remote then passes datacenter true (oneSide datacenter false servers)
  else passes datacenter false servers

theorem areLaps_laps (datacenter : Option String) (servers : List Server) (remote : Bool) :
    AreLaps datacenter remote servers (laps datacenter servers remote) := by
  cases remote with
  | false => exact areLaps_passes ..
  | true =>
    have later := areLaps_passes datacenter true (oneSide datacenter false servers)
    rw [oneSide_eq] at later
    rw [laps, if_pos rfl, oneSide_eq]
    exact areLaps_lowered Bool.false_ne_true later

theorem bothSides_laps (datacenter : Option String) (servers : List Server) :
    bothSides datacenter servers = servers.map fun s =>
      if s.active then s.lower (laps datacenter servers (s.isRemote datacenter)) else s := by
  rw [bothSides, oneSide_eq datacenter true, oneSide_eq datacenter false, List.map_map,
    ← oneSide_eq datacenter false]
  refine List.map_congr_left fun s _ => ?_
  rw [Function.comp_apply]
  cases active : s.active with
  | false => simp [lowered, onSide, active]
  | true =>
    cases side : s.isRemote datacenter with
    | false =>
      have here : onSide datacenter false s := by simp [onSide, active, side]
      rw [lowered, onSide_lowered, if_neg (by simp [onSide, side]), lowered, if_pos here]
      rfl
    | true =>
      have here : onSide datacenter true s := by simp [onSide, active, side]
      rw [lowered_of_onSide Bool.false_ne_true _ here, lowered, if_pos here]
      rfl

theorem bothSides_eq (datacenter : Option String) (servers : List Server) :
    ∃ laps : Bool → Nat, (∀ remote, AreLaps datacenter remote servers (laps remote)) ∧
      bothSides datacenter servers
        = servers.map fun s => if s.active then s.lower (laps (s.isRemote datacenter)) else s :=
  ⟨laps datacenter servers, areLaps_laps datacenter servers, bothSides_laps datacenter servers⟩

-- Where all servers are on one side, all lose the same laps.
theorem bothSides_eq_of_onSide (onOne : ∀ s ∈ servers, onSide datacenter remote s) :
    ∃ laps, AreLaps datacenter remote servers laps ∧
      bothSides datacenter servers = servers.map (·.lower laps) := by
  obtain ⟨laps, areLaps, lowered⟩ := bothSides_eq datacenter servers
  refine ⟨laps remote, areLaps remote, lowered.trans ?_⟩
  refine List.map_congr_left fun s member => ?_
  obtain ⟨active, side⟩ := isRemote_of_onSide (onOne s member)
  rw [if_pos active, side]

end Rescale

end Balancing
