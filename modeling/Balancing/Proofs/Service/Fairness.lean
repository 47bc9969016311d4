import Balancing.Proofs.Choice.Laps
import Balancing.Proofs.Service.Eligible
import Mathlib.Algebra.BigOperators.Fin

namespace Balancing

-- A server that only its weight tells from the others of its side.
structure Server.IsLevel (server : Server) (datacenter : Option String) (remote : Bool) :
    Prop where
  active : server.active = true
  side : server.isRemote datacenter = remote
  steady : server.slowStart = none
  idle : server.requests = 0

theorem Server.onSide_of_level {server : Server} {datacenter : Option String} {remote : Bool}
    (level : server.IsLevel datacenter remote) : Rescale.onSide datacenter remote server := by
  rw [Rescale.onSide, level.active, level.side, Bool.true_and]
  exact beq_self_eq_true remote

namespace LeastLoaded

-- A server with a part of its weight left ranks before one that has none left.
theorem keyOf_lt_of_full (servers : List Server) {datacenter : Option String} {remote : Bool}
    (now : Instant) {full short : Server} (level : full.IsLevel datacenter remote)
    (level' : short.IsLevel datacenter remote)
    (taken : full.statsRequests.toNat = full.weight.toNat)
    (left : short.statsRequests.toNat < short.weight.toNat) :
    keyOf servers [] datacenter now short < keyOf servers [] datacenter now full := by
  have pos := full.weight_toNat_pos
  have pos' := short.weight_toNat_pos
  have lt := full.weight.toNat_lt
  have lt' := short.weight.toNat_lt
  have tried (s : Server) : isTriedRack (racksAt servers []) s = false := by
    cases rack : s.rack <;> simp [isTriedRack, racksAt, rack]
  have load : (Binary64.ofNat 0).div (.ofNat short.weight.toNat)
      = (Binary64.ofNat 0).div (.ofNat full.weight.toNat) :=
    Binary64.div_congr (by omega) pos' (by omega) (by omega) pos (by omega) (by omega)
  have statsLoad := Binary64.value_div_lt_self left (by omega) pos (by omega)
  rw [keyOf, keyOf, rank, rank]
  simp only [Rank.key, Prod.Lex.toLex_lt_toLex, Server.effectiveWeight_of_none level.steady,
    Server.effectiveWeight_of_none level'.steady, level.side, level'.side, tried, level.idle,
    level'.idle, taken, UInt32.toNat_zero, load, lt_irrefl, true_and, false_or]
  exact statsLoad

end LeastLoaded

namespace Service

-- All servers may be chosen, and nothing but their weights tells them apart.
structure Level (s : Service) (remote : Bool) : Prop where
  near : s.allowRemote = true ∨ remote = false
  settled : s.pending = []
  level : ∀ server ∈ s.servers, server.IsLevel s.datacenter remote

variable {s : Service} {remote : Bool}

theorem mayServe_of_level (level : s.Level remote) {i : Nat} {server : Server}
    (found : s.servers[i]? = some server) : s.MayServe i server where
  found := found
  active := (level.level server (List.mem_of_getElem? found)).active
  near := by
    rw [(level.level server (List.mem_of_getElem? found)).side]
    exact level.near

-- The next server is one with a part of its weight left.
theorem acquire_level (level : s.Level remote)
    (most : ∀ server ∈ s.servers, server.statsRequests.toNat ≤ server.weight.toNat)
    (short : ∃ server ∈ s.servers, server.statsRequests.toNat < server.weight.toNat)
    (now : Instant) :
    ∃ i server laps, s.servers[i]? = some server ∧
      server.statsRequests.toNat < server.weight.toNat ∧
      Rescale.AreLaps s.datacenter remote (s.servers.set i server.acquire) laps ∧
      s.acquire now [] = (some (.of i server),
        { s with servers := (s.servers.set i server.acquire).map (·.lower laps) }) := by
  obtain ⟨other, member, left⟩ := short
  obtain ⟨j, there⟩ := List.mem_iff_getElem?.mp member
  have others := mayServe_of_level level there
  rcases acquire_chosen s now [] with ⟨_, nobody⟩ | ⟨i, server, may, _, lent, least⟩
  · exact absurd (nobody j other others) List.not_mem_nil
  · have listed := List.mem_of_getElem? may.found
    have onOne : ∀ s' ∈ s.servers.set i server.acquire,
        Rescale.onSide s.datacenter remote s' := by
      intro s' changed
      rcases List.mem_or_eq_of_mem_set changed with old | rfl
      · exact Server.onSide_of_level (level.level s' old)
      · have side := Server.onSide_of_level (level.level server listed)
        exact side
    obtain ⟨laps, areLaps, lowered⟩ := Rescale.bothSides_eq_of_onSide onOne
    refine ⟨i, server, laps, may.found, ?_, areLaps, ?_⟩
    · apply Classical.byContradiction
      intro full
      have taken : server.statsRequests.toNat = server.weight.toNat :=
        Nat.le_antisymm (most server listed) (Nat.le_of_not_lt full)
      have before := LeastLoaded.keyOf_lt_of_full s.servers now (level.level server listed)
        (level.level other member) taken left
      exact absurd (least j other others List.not_mem_nil) (not_le_of_gt before)
    · rw [lent]
      unfold rescale setServer
      rw [lowered]

theorem release_lent {i : Nat} {server : Server} (found : s.servers[i]? = some server) (laps : Nat)
    (now : Instant) (profile : String) (micros : UInt64) :
    (release { s with servers := (s.servers.set i server.acquire).map (·.lower laps) } now profile
        (.of i server) false micros false).1
      = { s with
          servers := (s.servers.map (·.lower laps)).set i
            ((server.acquire.lower laps).release false) } := by
  have inside := (List.getElem?_eq_some_iff.mp found).1
  have reached : serverOf? { s with servers := (s.servers.set i server.acquire).map (·.lower laps) }
      (.of i server) = some (server.acquire.lower laps) := by
    rw [serverOf?_eq_some_iff]
    dsimp only [Entry.of]
    rw [List.getElem?_map, List.getElem?_set_self inside]
    exact ⟨rfl, rfl⟩
  rw [release_success reached]
  dsimp only [setServer, Entry.of]
  rw [List.map_set, List.set_set]

-- In a list of the same length there is something at every place where the other has something.
theorem getElem?_of_length {α : Type} {l l' : List α} (same : l'.length = l.length) {j : Nat}
    {a : α} (there : l'[j]? = some a) : ∃ b, l[j]? = some b := by
  have inside := (List.getElem?_eq_some_iff.mp there).1
  rw [same] at inside
  exact ⟨_, List.getElem?_eq_getElem inside⟩

-- What the server at place `j` has taken once the one at place `i` has been chosen.
def counted (i j : Nat) (old : Server) : Nat := old.statsRequests.toNat + if i = j then 1 else 0

-- One round counts a request at place `i` and takes the same number of laps off every server.
structure RoundOf (remote : Bool) (i laps : Nat) (s s' : Service) : Prop where
  allowRemote : s'.allowRemote = s.allowRemote
  pending : s'.pending = s.pending
  weights : s'.servers.map (·.weight.toNat) = s.servers.map (·.weight.toNat)
  level : ∀ server ∈ s'.servers, server.IsLevel s'.datacenter remote
  inside : i < s.servers.length
  most : ∀ j old, s.servers[j]? = some old → old.statsRequests.toNat ≤ old.weight.toNat →
    counted i j old ≤ old.weight.toNat
  le : ∀ j old, s.servers[j]? = some old → laps * old.weight.toNat ≤ counted i j old
  least : ∃ j old, s.servers[j]? = some old ∧ counted i j old < (laps + 1) * old.weight.toNat
  stats : ∀ j old, s.servers[j]? = some old → ∃ served, s'.servers[j]? = some served ∧
    served.weight = old.weight ∧
    served.statsRequests.toNat = counted i j old - laps * old.weight.toNat

theorem RoundOf.length {i laps : Nat} {s' : Service} (made : RoundOf remote i laps s s') :
    s'.servers.length = s.servers.length := by
  have lengths := congrArg List.length made.weights
  rw [List.length_map, List.length_map] at lengths
  exact lengths

theorem RoundOf.back {i laps : Nat} {s' : Service} (made : RoundOf remote i laps s s') {j : Nat}
    {served : Server} (there : s'.servers[j]? = some served) :
    ∃ old, s.servers[j]? = some old ∧ served.weight = old.weight ∧
      served.statsRequests.toNat = counted i j old - laps * old.weight.toNat := by
  obtain ⟨old, here⟩ := getElem?_of_length made.length there
  obtain ⟨same, there', weight, rest⟩ := made.stats j old here
  cases there.symm.trans there'
  exact ⟨old, here, weight, rest⟩

theorem toNat_acquire {server : Server}
    (left : server.statsRequests.toNat < server.weight.toNat) :
    server.acquire.statsRequests.toNat = server.statsRequests.toNat + 1 := by
  have lt := server.weight.toNat_lt
  show (server.statsRequests + 1).toNat = _
  rw [UInt32.toNat_add, UInt32.toNat_one]
  exact Nat.mod_eq_of_lt (by omega)

-- The list with the request counted on the chosen server.
theorem getElem?_set_acquire {i : Nat} {server : Server} (found : s.servers[i]? = some server)
    {j : Nat} {old : Server} (there : s.servers[j]? = some old) :
    (s.servers.set i server.acquire)[j]? = some (if i = j then old.acquire else old) := by
  split
  · rename_i here
    subst here
    cases found.symm.trans there
    exact List.getElem?_set_self (List.getElem?_eq_some_iff.mp found).1
  · rename_i elsewhere
    rw [List.getElem?_set_ne elsewhere]
    exact there

theorem toNat_counted {i : Nat} {server : Server} (found : s.servers[i]? = some server)
    (left : server.statsRequests.toNat < server.weight.toNat) {j : Nat} {old : Server}
    (there : s.servers[j]? = some old) :
    (if i = j then old.acquire else old).statsRequests.toNat = counted i j old := by
  unfold counted
  split
  · rename_i here
    subst here
    cases found.symm.trans there
    exact toNat_acquire left
  · rfl

-- The list once the request has been answered too.
theorem getElem?_set_release {i : Nat} {server : Server} (found : s.servers[i]? = some server)
    (laps : Nat) {j : Nat} {old : Server} (there : s.servers[j]? = some old) :
    ((s.servers.map (·.lower laps)).set i ((server.acquire.lower laps).release false))[j]?
      = some (if i = j then (old.acquire.lower laps).release false else old.lower laps) := by
  split
  · rename_i here
    subst here
    cases found.symm.trans there
    have inside := (List.getElem?_eq_some_iff.mp found).1
    exact List.getElem?_set_self (by simpa using inside)
  · rename_i elsewhere
    rw [List.getElem?_set_ne elsewhere, List.getElem?_map, there]
    rfl

theorem isLevel_answered {old : Server} {datacenter : Option String}
    (level : old.IsLevel datacenter remote) (chosen : Prop) [Decidable chosen] (laps : Nat) :
    (if chosen then (old.acquire.lower laps).release false else old.lower laps).IsLevel datacenter
      remote := by
  split
  · refine ⟨level.active, level.side, level.steady, ?_⟩
    simp [Server.release, Server.lower, Server.acquire, level.idle]
  · exact ⟨level.active, level.side, level.steady, level.idle⟩

theorem counted_le {i : Nat} {server : Server} (found : s.servers[i]? = some server)
    (left : server.statsRequests.toNat < server.weight.toNat) {j : Nat} {old : Server}
    (there : s.servers[j]? = some old) (most : old.statsRequests.toNat ≤ old.weight.toNat) :
    counted i j old ≤ old.weight.toNat := by
  unfold counted
  split
  · rename_i here
    subst here
    cases found.symm.trans there
    exact left
  · exact most

theorem weight_taken (i j : Nat) (old : Server) :
    (if i = j then old.acquire else old).weight = old.weight := by
  split <;> rfl

-- The laps of the list with the request counted, said of what each server has taken.
theorem areLaps_counted (level : s.Level remote) {i laps : Nat} {server : Server}
    (found : s.servers[i]? = some server)
    (left : server.statsRequests.toNat < server.weight.toNat)
    (areLaps : Rescale.AreLaps s.datacenter remote (s.servers.set i server.acquire) laps) :
    (∀ j old, s.servers[j]? = some old → laps * old.weight.toNat ≤ counted i j old) ∧
    ∃ j old, s.servers[j]? = some old ∧ counted i j old < (laps + 1) * old.weight.toNat := by
  constructor
  · intro j old there
    have taken := List.mem_of_getElem? (getElem?_set_acquire found there)
    have side : Rescale.onSide s.datacenter remote (if i = j then old.acquire else old) := by
      have side := Server.onSide_of_level (level.level old (List.mem_of_getElem? there))
      split <;> exact side
    have le := areLaps.le _ taken side
    rw [weight_taken, toNat_counted found left there] at le
    exact le
  · have inside := (List.getElem?_eq_some_iff.mp found).1
    have side := Server.onSide_of_level (level.level server (List.mem_of_getElem? found))
    obtain ⟨taken, member, _, less⟩ := areLaps.least
      ⟨server.acquire, List.mem_set inside _, side⟩
    obtain ⟨j, there⟩ := List.mem_iff_getElem?.mp member
    obtain ⟨old, here⟩ := getElem?_of_length List.length_set there
    cases there.symm.trans (getElem?_set_acquire found here)
    rw [weight_taken, toNat_counted found left here] at less
    exact ⟨j, old, here, less⟩

theorem roundOf_answered (level : s.Level remote) {i laps : Nat} {server : Server}
    (found : s.servers[i]? = some server)
    (left : server.statsRequests.toNat < server.weight.toNat)
    (areLaps : Rescale.AreLaps s.datacenter remote (s.servers.set i server.acquire) laps) :
    RoundOf remote i laps s { s with
      servers := (s.servers.map (·.lower laps)).set i
        ((server.acquire.lower laps).release false) } := by
  obtain ⟨le, least⟩ := areLaps_counted level found left areLaps
  constructor
  · rfl
  · rfl
  · rw [List.map_set, List.map_map]
    exact map_set_same found rfl
  · intro served member
    obtain ⟨j, there⟩ := List.mem_iff_getElem?.mp member
    obtain ⟨old, here⟩ := getElem?_of_length (l := s.servers)
      (List.length_set.trans (List.length_map _)) there
    cases there.symm.trans (getElem?_set_release found laps here)
    exact isLevel_answered (level.level old (List.mem_of_getElem? here)) (i = j) laps
  · exact (List.getElem?_eq_some_iff.mp found).1
  · intro j old there most
    exact counted_le found left there most
  · exact le
  · exact least
  · intro j old there
    refine ⟨_, getElem?_set_release found laps there, ?_, ?_⟩
    · split <;> rfl
    · have counts := toNat_counted found left there
      rw [← counts, ← weight_taken i j old, ← Server.statsRequests_lower]
      split <;> rfl

theorem wake_of_settled (settled : s.pending = []) (now : Instant) : s.wake now = s := by
  simp [wake, settled]

end Service

-- A request that is answered without error: when it comes, how long it takes, and what is reported.
structure Round where
  pause : Nat
  answer : Nat
  profile : String
  micros : UInt64

namespace Moment

-- The place that was chosen, and what is left behind.
def round (m : Moment) (r : Round) : Option Nat × Moment :=
  let waiting := m.after (.pass r.pause)
  match (waiting.service.acquire waiting.clock []).1 with
  | none => (none, waiting)
  | some entry => (some entry.index, waiting.run
      [.acquire [], .pass r.answer, .release r.profile entry false r.micros false])

def rounds (m : Moment) : List Round → List (Option Nat) × Moment
  | [] => ([], m)
  | r :: rest =>
    let (chosen, m) := m.round r
    let (later, m) := m.rounds rest
    (chosen :: later, m)

variable {m : Moment} {remote : Bool}

theorem round_level (level : m.service.Level remote)
    (most : ∀ server ∈ m.service.servers, server.statsRequests.toNat ≤ server.weight.toNat)
    (short : ∃ server ∈ m.service.servers, server.statsRequests.toNat < server.weight.toNat)
    (r : Round) :
    ∃ i laps, (m.round r).1 = some i ∧
      Service.RoundOf remote i laps m.service (m.round r).2.service := by
  have slept := Service.wake_of_settled level.settled (m.clock + r.pause)
  obtain ⟨i, server, laps, found, left, areLaps, lent⟩ :=
    Service.acquire_level level most short (m.clock + r.pause)
  have chosen : ((m.after (.pass r.pause)).service.acquire (m.after (.pass r.pause)).clock []).1
      = some (.of i server) := by
    show ((m.service.wake (m.clock + r.pause)).acquire (m.clock + r.pause) []).1 = _
    rw [slept, lent]
  have answered : (m.round r).2.service = { m.service with
      servers := (m.service.servers.map (·.lower laps)).set i
        ((server.acquire.lower laps).release false) } := by
    unfold round
    dsimp only
    rw [chosen]
    show ((((m.service.wake (m.clock + r.pause)).acquire (m.clock + r.pause) []).2.wake
      (m.clock + r.pause + r.answer)).release _ r.profile (.of i server) false r.micros false).1 = _
    rw [slept, lent]
    dsimp only
    rw [Service.wake_of_settled (by exact level.settled)]
    exact Service.release_lent found ..
  refine ⟨i, laps, ?_, ?_⟩
  · unfold round
    dsimp only
    rw [chosen]
    rfl
  · rw [answered]
    exact Service.roundOf_answered level found left areLaps

-- Every server has been chosen for a number of laps, the same for all, and for what it has taken
-- since; in the lap under way not all have had their whole share.
structure Shares (weights : List Nat) (remote : Bool) (chosen : List (Option Nat)) (s : Service) :
    Prop where
  level : s.Level remote
  weights : s.servers.map (·.weight.toNat) = weights
  places : ∀ c ∈ chosen, ∃ i, c = some i ∧ i < s.servers.length
  counts : ∃ laps, ∀ i server, s.servers[i]? = some server →
    chosen.count (some i) = laps * server.weight.toNat + server.statsRequests.toNat
  most : ∀ server ∈ s.servers, server.statsRequests.toNat ≤ server.weight.toNat
  short : ∃ server ∈ s.servers, server.statsRequests.toNat < server.weight.toNat

variable {weights : List Nat} {chosen : List (Option Nat)}

theorem shares_round (shares : Shares weights remote chosen m.service) (r : Round) :
    Shares weights remote (chosen ++ [(m.round r).1]) (m.round r).2.service := by
  obtain ⟨i, laps, choice, made⟩ := round_level shares.level shares.most shares.short r
  obtain ⟨before, counts⟩ := shares.counts
  rw [choice]
  constructor
  · refine ⟨?_, made.pending.trans shares.level.settled, made.level⟩
    rw [made.allowRemote]
    exact shares.level.near
  · exact made.weights.trans shares.weights
  · intro c member
    rw [made.length]
    rcases List.mem_append.mp member with old | new
    · exact shares.places c old
    · exact ⟨i, List.mem_singleton.mp new, made.inside⟩
  · refine ⟨before + laps, fun j served there => ?_⟩
    obtain ⟨old, here, weight, rest⟩ := made.back there
    have enough := made.le j old here
    rw [List.count_append, List.count_singleton, counts j old here, rest, weight, Nat.add_mul]
    simp only [Service.counted, beq_iff_eq, Option.some.injEq] at enough ⊢
    omega
  · intro served member
    obtain ⟨j, there⟩ := List.mem_iff_getElem?.mp member
    obtain ⟨old, here, weight, rest⟩ := made.back there
    have most := made.most j old here (shares.most old (List.mem_of_getElem? here))
    rw [rest, weight]
    omega
  · obtain ⟨j, old, here, less⟩ := made.least
    obtain ⟨served, there, weight, rest⟩ := made.stats j old here
    refine ⟨served, List.mem_of_getElem? there, ?_⟩
    have positive := old.weight_toNat_pos
    rw [Nat.succ_mul] at less
    rw [rest, weight]
    omega

theorem shares_rounds (shares : Shares weights remote chosen m.service) (rs : List Round) :
    Shares weights remote (chosen ++ (m.rounds rs).1) (m.rounds rs).2.service := by
  induction rs generalizing m chosen with
  | nil =>
    rw [rounds, List.append_nil]
    exact shares
  | cons r rs ih =>
    have rest := ih (shares_round shares r)
    rw [List.append_assoc, List.singleton_append] at rest
    exact rest

theorem length_rounds (m : Moment) (rs : List Round) : (m.rounds rs).1.length = rs.length := by
  induction rs generalizing m with
  | nil => rfl
  | cons r rs ih =>
    rw [rounds]
    exact congrArg Nat.succ (ih _)

-- Each choice counts at one place.
theorem sum_count {n : Nat} (places : ∀ c ∈ chosen, ∃ i, c = some i ∧ i < n) :
    ∑ i : Fin n, chosen.count (some i.val) = chosen.length := by
  induction chosen with
  | nil => simp
  | cons c chosen ih =>
    obtain ⟨i, rfl, inside⟩ := places c List.mem_cons_self
    have rest := ih fun c member => places c (List.mem_cons_of_mem _ member)
    have once : ∑ j : Fin n, (if (some i == some j.val) = true then 1 else 0) = 1 := by
      lift i to Fin n using inside
      simp only [beq_iff_eq, Option.some.injEq, Fin.val_inj, Finset.sum_ite_eq, Finset.mem_univ,
        if_true]
    simp only [List.count_cons, Finset.sum_add_distrib, rest, once, List.length_cons]

-- After as many rounds as whole laps have, the lap under way is at its beginning.
theorem shares_of_laps {s : Service} (shares : Shares weights remote chosen s) {laps : Nat}
    (length : chosen.length = laps * weights.sum) {i : Nat} {server : Server}
    (found : s.servers[i]? = some server) :
    chosen.count (some i) = laps * server.weight.toNat ∧ server.statsRequests = 0 := by
  obtain ⟨full, counts⟩ := shares.counts
  have total : chosen.length = full * weights.sum
      + (s.servers.map (·.statsRequests.toNat)).sum := by
    have each (j : Fin s.servers.length) : chosen.count (some j.val)
        = full * s.servers[j.val].weight.toNat + s.servers[j.val].statsRequests.toNat :=
      counts j.val _ (List.getElem?_eq_getElem j.isLt)
    rw [← sum_count shares.places, ← shares.weights]
    simp only [each, Finset.sum_add_distrib, ← Finset.mul_sum]
    rw [Fin.sum_univ_fun_getElem s.servers fun server => server.weight.toNat,
      Fin.sum_univ_fun_getElem s.servers fun server => server.statsRequests.toNat]
  have less : (s.servers.map (·.statsRequests.toNat)).sum < weights.sum := by
    rw [← shares.weights]
    exact List.sum_lt_sum _ _ shares.most shares.short
  have same : full = laps := by
    rcases Nat.lt_trichotomy full laps with fewer | same | more
    · have := Nat.mul_le_mul_right weights.sum fewer
      rw [Nat.succ_mul] at this
      omega
    · exact same
    · have := Nat.mul_le_mul_right weights.sum more
      rw [Nat.succ_mul] at this
      omega
  rw [same, length] at total
  have none : (s.servers.map (·.statsRequests.toNat)).sum = 0 := by omega
  have zero : server.statsRequests.toNat = 0 :=
    List.sum_eq_zero_iff.mp none _ (List.mem_map_of_mem (List.mem_of_getElem? found))
  rw [counts i server found, same, zero]
  exact ⟨rfl, UInt32.toNat_inj.mp zero⟩

theorem shares_published {name : String} {datacenter : Option String} {allowRemote : Bool}
    {windows : Windows} {clock : Instant} {profiles : Profiles} {specs : List ServerSpec}
    (nonempty : specs ≠ []) {s : Service}
    (published : (Service.create name datacenter allowRemote windows).update clock profiles specs
      = .ok s)
    (oneSide : ∀ server ∈ s.servers, server.isRemote s.datacenter = remote)
    (near : allowRemote = true ∨ remote = false) :
    Shares (specs.map fun spec => max spec.weight.toNat 1) remote [] s := by
  obtain ⟨r, made, rfl⟩ := Service.update_first rfl published
  have new := Service.roster_built made
  have fits := Service.roster_isOf made
  have weights : r.servers.map (·.weight.toNat)
      = specs.map fun spec => max spec.weight.toNat 1 := by
    rw [← List.forall₂_eq_eq_eq, List.forall₂_map_left_iff, List.forall₂_map_right_iff]
    exact fits.imp fun server spec isOf => Server.weight_of_isOf isOf
  have untouched {server : Server} (member : server ∈ r.servers) :
      server.statsRequests.toNat = 0 := by
    rw [(new server member).1.statsRequests]
    rfl
  constructor
  · refine ⟨near, rfl, fun server member => ?_⟩
    obtain ⟨isNew, steady⟩ := new server member
    exact ⟨isNew.active, oneSide server member, steady, isNew.requests⟩
  · exact weights
  · intro c member
    cases member
  · refine ⟨0, fun i server found => ?_⟩
    rw [untouched (List.mem_of_getElem? found), List.count_nil, Nat.zero_mul]
  · intro server member
    rw [untouched member]
    exact Nat.zero_le _
  · have filled : r.servers ≠ [] := by
      intro empty
      rw [empty] at fits
      cases fits
      exact nonempty rfl
    obtain ⟨server, member⟩ := List.exists_mem_of_ne_nil _ filled
    refine ⟨server, member, ?_⟩
    rw [untouched member]
    exact server.weight_toNat_pos

theorem shares_by_weight (name : String) (datacenter : Option String) (allowRemote : Bool)
    (windows : Windows) (clock : Instant) (profiles : Profiles) (specs : List ServerSpec)
    (nonempty : specs ≠ []) (s : Service)
    (published : (Service.create name datacenter allowRemote windows).update clock profiles specs
      = .ok s)
    (remote : Bool) (oneSide : ∀ server ∈ s.servers, server.isRemote s.datacenter = remote)
    (near : allowRemote = true ∨ remote = false) (laps : Nat) (rs : List Round)
    (length : rs.length = laps * (specs.map fun spec => max spec.weight.toNat 1).sum) :
    let done := rounds ⟨s, clock, specs⟩ rs
    done.2.service.servers.length = specs.length ∧
    (∀ i spec, specs[i]? = some spec →
      done.1.count (some i) = laps * max spec.weight.toNat 1) ∧
    ∀ server ∈ done.2.service.servers, server.statsRequests = 0 := by
  intro done
  have start := shares_published nonempty published oneSide near
  have shares : Shares _ remote done.1 done.2.service :=
    shares_rounds (m := ⟨s, clock, specs⟩) start rs
  have total : done.1.length = laps * (specs.map fun spec => max spec.weight.toNat 1).sum :=
    (length_rounds _ rs).trans length
  have same : done.2.service.servers.length = specs.length := by
    have lengths := congrArg List.length shares.weights
    rw [List.length_map, List.length_map] at lengths
    exact lengths
  refine ⟨same, ?_, ?_⟩
  · intro i spec asked
    have inside := (List.getElem?_eq_some_iff.mp asked).1
    rw [← same] at inside
    have found := List.getElem?_eq_getElem inside
    have weights := congrArg (·[i]?) shares.weights
    simp only [List.getElem?_map, found, asked, Option.map_some, Option.some.injEq] at weights
    rw [(shares_of_laps shares total found).1, weights]
  · intro server member
    obtain ⟨i, found⟩ := List.mem_iff_getElem?.mp member
    exact (shares_of_laps shares total found).2

theorem two_and_six_of_eight :
    let specs : List ServerSpec := [{ address := "a:80" }, { address := "b:80", weight := 3 }]
    ∃ s, (Service.create "shop" none false {}).update 0 .empty specs = .ok s ∧
      let done := rounds ⟨s, 0, specs⟩ (List.replicate 8 ⟨0, 0, "default", 0⟩)
      done.1.count (some 0) = 2 ∧ done.1.count (some 1) = 6 ∧
        ∀ server ∈ done.2.service.servers, server.statsRequests = 0 := by
  intro specs
  have accepted :
      ((Service.create "shop" none false {}).update 0 .empty specs).toOption.isSome := by
    decide +kernel +revert
  obtain ⟨s, published⟩ :
      ∃ s, (Service.create "shop" none false {}).update 0 .empty specs = .ok s := by
    cases updated : (Service.create "shop" none false {}).update 0 .empty specs with
    | error e =>
      rw [updated] at accepted
      cases accepted
    | ok s => exact ⟨s, rfl⟩
  have oneSide : ∀ server ∈ s.servers, server.isRemote s.datacenter = false := by
    obtain ⟨r, _, rfl⟩ := Service.update_first rfl published
    intro server _
    rfl
  obtain ⟨_, counts, zero⟩ := shares_by_weight "shop" none false {} 0 .empty specs
    (List.cons_ne_nil _ _) s published false oneSide (.inr rfl) 2
    (List.replicate 8 ⟨0, 0, "default", 0⟩) (by decide)
  exact ⟨s, published, counts 0 _ rfl, counts 1 _ rfl, zero⟩

end Moment

end Balancing
