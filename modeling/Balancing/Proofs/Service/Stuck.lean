import Balancing.Proofs.Service.Counters

namespace Balancing

namespace Service

-- Two servers of one side: one with a request in flight and a part of its weight left, which keeps
-- the side from being rescaled, and one with nothing in flight, which is chosen before it.
structure Behind (s : Service) (stuck idle : Server) : Prop where
  servers : s.servers = [stuck, idle]
  near : s.allowRemote = true ∨ idle.isRemote s.datacenter = false
  side : stuck.isRemote s.datacenter = idle.isRemote s.datacenter
  stuck_active : stuck.active = true
  idle_active : idle.active = true
  busy : stuck.requests ≠ 0
  left : stuck.statsRequests.toNat < stuck.weight.toNat
  free : idle.requests = 0
  clean : idle.fails = 0

variable {s : Service} {stuck idle : Server}

theorem laps_of_behind (behind : s.Behind stuck idle) (other : Server) :
    Rescale.laps s.datacenter [stuck, other] (stuck.isRemote s.datacenter) = 0 := by
  have le := (Rescale.areLaps_laps s.datacenter [stuck, other] (stuck.isRemote s.datacenter)).le
    stuck List.mem_cons_self (Rescale.onSide_of_active behind.stuck_active)
  have left := behind.left
  refine Nat.eq_zero_of_not_pos fun positive => ?_
  have once := Nat.le_mul_of_pos_left stuck.weight.toNat positive
  omega

theorem acquire_behind (behind : s.Behind stuck idle) (now : Instant) :
    s.acquire now [] = (some (.of 1 idle), { s with servers := [stuck, idle.acquire] }) := by
  have may : s.MayServe 1 idle := ⟨by rw [behind.servers]; rfl, behind.idle_active, behind.near⟩
  rcases acquire_chosen s now [] with ⟨_, nobody⟩ | ⟨i, server, chosen, _, lent, least⟩
  · exact absurd (nobody 1 idle may) List.not_mem_nil
  have there := chosen.found
  rw [behind.servers] at there
  match i, there with
  | 0, there =>
    cases there
    have before :=
      LeastLoaded.keyOf_lt_of_busy s.servers now behind.side.symm behind.free behind.busy
    exact absurd (least 1 idle may List.not_mem_nil) (not_le_of_gt before)
  | 1, there =>
    cases there
    have none := laps_of_behind behind idle.acquire
    have side : idle.acquire.isRemote s.datacenter = stuck.isRemote s.datacenter := behind.side.symm
    have active : idle.acquire.active = true := behind.idle_active
    rw [lent]
    unfold rescale setServer
    rw [Rescale.bothSides_laps, behind.servers]
    simp only [List.set_cons_succ, List.set_cons_zero, List.map_cons, List.map_nil,
      behind.stuck_active, active, if_true, side, none, Server.lower_zero]

end Service

namespace Moment

variable {m : Moment} {stuck idle : Server}

-- A request that is answered at once, on the server of the entry.
def roundTrip (entry : Entry) (profile : String) (micros : UInt64) : List Action :=
  [.acquire [], .release profile entry false micros false]

def tookMore (idle : Server) (n : Nat) : Server :=
  { idle with statsRequests := idle.statsRequests + .ofNat n }

theorem unscaled?_success (m : Moment) (profile : String) (entry : Entry) (micros : UInt64) :
    m.unscaled? (.release profile entry false micros false) = none := by
  simp only [unscaled?, Service.suspends, Bool.false_and, Bool.false_eq_true, if_false]
  split <;> rfl

theorem after_acquire_behind (behind : m.service.Behind stuck idle) :
    m.after (.acquire [])
      = { m with service := { m.service with servers := [stuck, idle.acquire] } } := by
  unfold after
  dsimp only
  rw [Service.acquire_behind behind]

theorem run_roundTrip (behind : m.service.Behind stuck idle) (profile : String)
    (micros : UInt64) :
    m.run (roundTrip (.of 1 idle) profile micros)
      = { m with service := { m.service with servers := [stuck, tookMore idle 1] } } := by
  have reached : Service.serverOf? { m.service with servers := [stuck, idle.acquire] }
      (.of 1 idle) = some idle.acquire := Service.serverOf?_eq_some_iff.mpr ⟨rfl, rfl⟩
  have released : idle.acquire.release false = tookMore idle 1 := by
    simp [Server.release, Server.acquire, tookMore, behind.free, behind.clean]
  show (m.after (.acquire [])).after (.release profile (.of 1 idle) false micros false) = _
  rw [after_acquire_behind behind]
  unfold after
  dsimp only
  rw [Service.release_success reached, released]
  rfl

theorem timesTaken_roundTrip (behind : m.service.Behind stuck idle) (profile : String)
    (micros : UInt64) : m.timesTaken 1 (roundTrip (.of 1 idle) profile micros) = 1 := by
  unfold timesTaken roundTrip choices
  rw [Service.acquire_behind behind]
  rfl

theorem passes_roundTrip (behind : m.service.Behind stuck idle) (profile : String)
    (micros : UInt64) : m.passes 1 (roundTrip (.of 1 idle) profile micros) = 0 := by
  have none := Service.laps_of_behind behind idle.acquire
  have side : idle.acquire.isRemote m.service.datacenter = stuck.isRemote m.service.datacenter :=
    behind.side.symm
  have active : idle.acquire.active = true := behind.idle_active
  have first : m.passesOf 1 (.acquire []) = 0 := by
    simp only [passesOf, unscaled?, Service.acquire_behind behind, behind.servers, Entry.of,
      List.getElem?_cons_succ, List.getElem?_cons_zero, Option.map_some, List.set_cons_succ,
      List.set_cons_zero, Rescale.passesAt, active, if_true, side, none]
  have second (m : Moment) :
      m.passesOf 1 (.release profile (.of 1 idle) false micros false) = 0 := by
    rw [passesOf, unscaled?_success]
  unfold roundTrip passes passes passes
  rw [first, second]

theorem behind_roundTrip (behind : m.service.Behind stuck idle) (profile : String)
    (micros : UInt64) :
    (m.run (roundTrip (.of 1 idle) profile micros)).service.Behind stuck (tookMore idle 1) := by
  rw [run_roundTrip behind]
  exact { behind with servers := rfl }

-- However many requests come, no pass is taken, and the counter goes on counting.
theorem counter_behind (behind : m.service.Behind stuck idle) (profile : String) (micros : UInt64)
    (n : Nat) :
    let actions := (List.replicate n (roundTrip (.of 1 idle) profile micros)).flatten
    m.timesTaken 1 actions = n ∧ m.passes 1 actions = 0 ∧
      (m.run actions).service.servers = [stuck, tookMore idle n] := by
  induction n generalizing m idle with
  | zero =>
    refine ⟨rfl, rfl, behind.servers.trans ?_⟩
    simp [tookMore]
  | succ n ih =>
    intro actions
    have split : actions = roundTrip (.of 1 idle) profile micros
        ++ (List.replicate n (roundTrip (.of 1 idle) profile micros)).flatten := rfl
    obtain ⟨times, none, servers⟩ := ih (behind_roundTrip behind profile micros)
    have more : tookMore (tookMore idle 1) n = tookMore idle (n + 1) := by
      simp only [tookMore, UInt32.ofNat_add, UInt32.add_assoc, UInt32.add_comm (.ofNat 1)]
    refine ⟨?_, ?_, ?_⟩
    · rw [split, timesTaken_append, timesTaken_roundTrip behind, Nat.add_comm]
      exact congrArg Nat.succ times
    · rw [split, passes_append, passes_roundTrip behind, Nat.zero_add]
      exact none
    · rw [split, run, List.foldl_append, ← more]
      exact servers

-- A request stays on the first server for ever. The second one takes 2^32 + 1 others, each answered
-- at once, and is rescaled after the first of them only.
theorem counter_wraps_behind_stuck_request :
    let m := (create "shop" none false {} 0).run
      [.update .empty [{ address := "a:80" }, { address := "b:80" }]]
    let entry : Entry := ⟨1, "b:80", ⟨"http", "b:80"⟩, none, none⟩
    let actions := Action.acquire []
      :: (List.replicate (2 ^ 32 + 1) (roundTrip entry "default" 0)).flatten
    (∀ profiles specs, Action.update profiles specs ∉ actions) ∧
      m.timesTaken 1 actions = 2 ^ 32 + 1 ∧ m.passes 1 actions = 1 ∧
      (m.run actions).service.servers.map (fun server => (server.weight, server.statsRequests))
        = [(1, 0), (1, 0)] := by
  intro m entry actions
  let first := Action.acquire [] :: roundTrip entry "default" 0
  have facts : m.timesTaken 1 first = 1 ∧ m.passes 1 first = 1 ∧
      (m.run first).service.datacenter = none ∧
      (m.run first).service.servers.map (fun server => (server.requests, server.statsRequests))
        = [(1, 0), (0, 0)] ∧
      (m.run first).service.servers.map (fun server => (server.weight, server.fails))
        = [(1, 0), (1, 0)] ∧
      (m.run first).service.servers.map (·.active) = [true, true] ∧
      ((m.run first).service.servers.map (Entry.of 1))[1]? = some entry := by
    decide +kernel +revert
  have split : actions
      = first ++ (List.replicate (2 ^ 32) (roundTrip entry "default" 0)).flatten := by
    show _ :: (List.replicate (2 ^ 32 + 1) _).flatten = _
    rw [List.replicate_succ, List.flatten_cons]
    rfl
  obtain ⟨times, passes, datacenter, counts, weights, active, entries⟩ := facts
  obtain ⟨stuck, idle, servers⟩ := List.length_eq_two.mp
    ((List.length_map _).symm.trans (congrArg List.length active))
  simp only [servers, List.map_cons, List.map_nil, List.cons.injEq, Prod.mk.injEq, and_true,
    List.getElem?_cons_succ, List.getElem?_cons_zero, Option.some.injEq]
    at counts weights active entries
  obtain ⟨⟨busy, none⟩, free, none'⟩ := counts
  obtain ⟨⟨weight, _⟩, weight', clean⟩ := weights
  have behind : (m.run first).service.Behind stuck idle := by
    have near (server : Server) : server.isRemote (m.run first).service.datacenter = false := by
      rw [datacenter]
      rfl
    refine ⟨servers, .inr (near idle), (near stuck).trans (near idle).symm, active.1, active.2, ?_,
      ?_, free, clean⟩
    · rw [busy]
      decide
    · rw [none, weight]
      decide
  have grown := counter_behind behind "default" 0 (2 ^ 32)
  rw [entries] at grown
  obtain ⟨later, without, left⟩ := grown
  refine ⟨?_, ?_, ?_, ?_⟩
  · intro profiles specs member
    rcases List.mem_cons.mp member with same | among
    · cases same
    · obtain ⟨trip, listed, inside⟩ := List.mem_flatten.mp among
      rw [List.eq_of_mem_replicate listed] at inside
      simp [roundTrip] at inside
  · rw [split, timesTaken_append, times, later, Nat.add_comm]
  · rw [split, passes_append, passes, without]
  · rw [split, run, List.foldl_append, ← run, ← run, left]
    simp only [List.map_cons, List.map_nil, tookMore, weight, weight', none, none']
    decide

end Moment

end Balancing
