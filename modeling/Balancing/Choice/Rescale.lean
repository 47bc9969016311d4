import Balancing.Server

namespace Balancing.Rescale

def onSide (datacenter : Option String) (remote : Bool) (s : Server) : Bool :=
  s.active && s.isRemote datacenter == remote

def isSaturated (side : Server → Bool) (servers : List Server) : Bool :=
  servers.any side && servers.all fun s => !side s || s.weight ≤ s.statsRequests

def pass (side : Server → Bool) (servers : List Server) : List Server :=
  servers.map fun s => if side s then s.rescale else s

-- What one server contributes to what its side has taken.
def share (side : Server → Bool) (s : Server) : Nat :=
  if side s then s.statsRequests.toNat else 0

def taken (side : Server → Bool) (servers : List Server) : Nat :=
  servers.foldr (fun s rest => share side s + rest) 0

theorem statsRequests_rescale_lt {s : Server} (h : s.weight ≤ s.statsRequests) :
    s.rescale.statsRequests.toNat < s.statsRequests.toNat := by
  have positive := UInt32.lt_iff_toNat_lt.mp s.weight_pos
  have le := UInt32.le_iff_toNat_le.mp h
  simp only [Server.rescale, h, if_true, UInt32.toNat_sub_of_le _ _ h]
  simp at positive
  omega

theorem onSide_rescale (datacenter : Option String) (remote : Bool) (s : Server) :
    onSide datacenter remote s.rescale = onSide datacenter remote s := by
  unfold Server.rescale
  split <;> rfl

theorem taken_cons (side : Server → Bool) (s : Server) (rest : List Server) :
    taken side (s :: rest) = share side s + taken side rest := rfl

theorem pass_cons (side : Server → Bool) (s : Server) (rest : List Server) :
    pass side (s :: rest) = (if side s then s.rescale else s) :: pass side rest := rfl

variable {side : Server → Bool} (stable : ∀ s : Server, side s.rescale = side s)

include stable in
theorem share_pass_lt {s : Server} (member : side s) (full : s.weight ≤ s.statsRequests) :
    share side (if side s then s.rescale else s) < share side s := by
  have less := statsRequests_rescale_lt full
  simpa [share, member, stable] using less

include stable in
theorem share_pass_le {s : Server} (full : !side s || s.weight ≤ s.statsRequests) :
    share side (if side s then s.rescale else s) ≤ share side s := by
  by_cases member : side s
  · have le : s.weight ≤ s.statsRequests := by simpa [member] using full
    exact Nat.le_of_lt (share_pass_lt stable member le)
  · simp [share, member]

include stable in
theorem taken_pass_le {servers : List Server}
    (full : servers.all fun s => !side s || s.weight ≤ s.statsRequests) :
    taken side (pass side servers) ≤ taken side servers := by
  induction servers with
  | nil => simp [taken, pass]
  | cons s rest ih =>
    rw [List.all_cons, Bool.and_eq_true] at full
    rw [pass_cons, taken_cons, taken_cons]
    exact Nat.add_le_add (share_pass_le stable full.1) (ih full.2)

include stable in
theorem taken_pass_lt {servers : List Server} (full : isSaturated side servers) :
    taken side (pass side servers) < taken side servers := by
  rw [isSaturated, Bool.and_eq_true] at full
  obtain ⟨some_side, all_full⟩ := full
  induction servers with
  | nil => simp at some_side
  | cons s rest ih =>
    rw [List.all_cons, Bool.and_eq_true] at all_full
    rw [pass_cons, taken_cons, taken_cons]
    by_cases member : side s
    · have le : s.weight ≤ s.statsRequests := by simpa [member] using all_full.1
      exact Nat.add_lt_add_of_lt_of_le (share_pass_lt stable member le)
        (taken_pass_le stable all_full.2)
    · have later : rest.any side := by simpa [member] using some_side
      exact Nat.add_lt_add_of_le_of_lt (share_pass_le stable all_full.1) (ih later all_full.2)

def oneSide (datacenter : Option String) (remote : Bool) (servers : List Server) : List Server :=
  if isSaturated (onSide datacenter remote) servers then
    oneSide datacenter remote (pass (onSide datacenter remote) servers)
  else servers
termination_by taken (onSide datacenter remote) servers
decreasing_by exact taken_pass_lt (onSide_rescale datacenter remote) ‹_›

def bothSides (datacenter : Option String) (servers : List Server) : List Server :=
  oneSide datacenter true (oneSide datacenter false servers)

end Balancing.Rescale
