import Balancing.Proofs.Choice.Draw
import Balancing.Proofs.Choice.Ranking
import Balancing.Proofs.Service.Stray

namespace Balancing

namespace Service

-- A server in the list that may be handed out: in the rotation, and near enough.
structure MayServe (s : Service) (i : Nat) (server : Server) : Prop where
  found : s.servers[i]? = some server
  active : server.active = true
  near : s.allowRemote = true ∨ server.isRemote s.datacenter = false

variable {s : Service}

theorem mayServe_iff {i : Nat} {server : Server} :
    s.MayServe i server ↔ s.servers[i]? = some server ∧
      LeastLoaded.isEligible s.datacenter s.allowRemote server = true := by
  unfold LeastLoaded.isEligible
  rw [Bool.and_eq_true, Bool.or_eq_true, Bool.not_eq_true']
  constructor
  · intro may
    exact ⟨may.found, may.active, may.near⟩
  · rintro ⟨found, active, near⟩
    exact ⟨found, active, near⟩

-- An acquire passes over every server only if none outside the exclusions may serve. Otherwise it
-- takes one that no other ranks before.
theorem acquire_chosen (s : Service) (now : Instant) (excluded : List Nat) :
    (s.acquire now excluded = (none, s) ∧ ∀ i server, s.MayServe i server → i ∈ excluded) ∨
    ∃ i server, s.MayServe i server ∧ i ∉ excluded ∧
      s.acquire now excluded = (some (.of i server), (s.setServer i server.acquire).rescale) ∧
      ∀ j other, s.MayServe j other → j ∉ excluded →
        LeastLoaded.keyOf s.servers excluded s.datacenter now server
          ≤ LeastLoaded.keyOf s.servers excluded s.datacenter now other := by
  unfold acquire
  cases chosen : LeastLoaded.select? s.servers excluded s.datacenter s.allowRemote now with
  | none =>
    refine .inl ⟨rfl, fun i server may => ?_⟩
    have nobody := LeastLoaded.select?_eq_none_iff.mp chosen
    apply Classical.byContradiction
    intro outside
    obtain ⟨found, eligible⟩ := mayServe_iff.mp may
    have contends := LeastLoaded.mem_contenders.mpr ⟨found, eligible, outside⟩
    rw [nobody] at contends
    cases contends
  | some i =>
    obtain ⟨server, contends, least⟩ := LeastLoaded.select?_some chosen
    obtain ⟨found, eligible, outside⟩ := LeastLoaded.mem_contenders.mp contends
    refine .inr ⟨i, server, mayServe_iff.mpr ⟨found, eligible⟩, outside, ?_, ?_⟩
    · dsimp only
      rw [found]
    · intro j other may kept
      obtain ⟨there, eligible'⟩ := mayServe_iff.mp may
      exact least (other, j) (LeastLoaded.mem_contenders.mpr ⟨there, eligible', kept⟩)

theorem acquire_eq_none_iff (now : Instant) (excluded : List Nat) :
    (s.acquire now excluded).1 = none ↔ ∀ i server, s.MayServe i server → i ∈ excluded := by
  rcases acquire_chosen s now excluded with ⟨nothing, nobody⟩ | ⟨i, server, may, outside, lent, _⟩
  · rw [nothing]
    exact iff_of_true rfl nobody
  · rw [lent]
    exact iff_of_false (Option.some_ne_none _) fun inside => outside (inside i server may)

theorem select?_of_acquire {now : Instant} {excluded : List Nat} {entry : Entry}
    (acquired : (s.acquire now excluded).1 = some entry) :
    LeastLoaded.select? s.servers excluded s.datacenter s.allowRemote now = some entry.index := by
  unfold acquire at acquired
  split at acquired
  · cases acquired
  · rename_i i chosen
    split at acquired
    · cases acquired
    · cases acquired
      exact chosen

theorem mayServe_of_acquire {now : Instant} {excluded : List Nat} {entry : Entry}
    (acquired : (s.acquire now excluded).1 = some entry) :
    ∃ server, s.MayServe entry.index server ∧ entry.index ∉ excluded ∧
      entry = .of entry.index server ∧
      (s.acquire now excluded).2.servers.map (·.requests)
        = (s.servers.map (·.requests)).set entry.index (server.requests + 1) := by
  rcases acquire_chosen s now excluded with ⟨nothing, _⟩ | ⟨i, server, may, outside, lent, _⟩
  · rw [nothing] at acquired
    cases acquired
  · rw [lent] at acquired ⊢
    cases acquired
    exact ⟨server, may, outside, rfl, map_acquired Server.steady_requests.rescale s i _⟩

theorem mem_eligible {i : Nat} {server : Server} :
    (server, i) ∈ s.eligible ↔ s.MayServe i server := by
  unfold eligible
  rw [List.mem_filter, List.mk_mem_zipIdx_iff_getElem?, mayServe_iff]

theorem eligible_ne_nil_iff : s.eligible ≠ [] ↔ ∃ i server, s.MayServe i server := by
  constructor
  · intro nonempty
    obtain ⟨⟨server, i⟩, member⟩ := List.exists_mem_of_ne_nil _ nonempty
    exact ⟨i, server, mem_eligible.mp member⟩
  · rintro ⟨i, server, may⟩
    exact List.ne_nil_of_mem (mem_eligible.mpr may)

-- The places of the servers that may serve.
def places (s : Service) : List Nat := s.eligible.map Prod.snd

theorem mem_places {i : Nat} : i ∈ s.places ↔ ∃ server, s.MayServe i server := by
  unfold places
  rw [List.mem_map]
  constructor
  · rintro ⟨⟨server, j⟩, member, rfl⟩
    exact ⟨server, mem_eligible.mp member⟩
  · rintro ⟨server, may⟩
    exact ⟨(server, i), mem_eligible.mpr may, rfl⟩

theorem nodup_places (s : Service) : s.places.Nodup := by
  have all : (s.servers.zipIdx.map Prod.snd).Nodup := by
    rw [List.zipIdx_map_snd]
    exact List.nodup_range' ..
  exact all.sublist (List.filter_sublist.map Prod.snd)

theorem length_places (s : Service) : s.places.length = s.eligible.length := List.length_map ..

-- The weights of the servers that may serve, each in full.
def drawWeights (s : Service) : List Nat := Weighted.fullWeights (s.eligible.map Prod.fst)

variable {γ : Type}

theorem acquireAdaptive_ok_iff (ticket : UInt64 → γ → UInt64 × γ) (count : Nat) (g : γ) :
    (∃ drawn, s.acquireAdaptive ticket count g = .ok drawn) ↔
      count = 0 ∨ s.eligible.length ≤ 1 ∨ s.drawWeights.sum < 2 ^ 64 := by
  have ordered : (∃ run, Weighted.order ticket (s.eligible.map Prod.fst) count g = .ok run) ↔ _ :=
    Weighted.order_ok_iff ticket g
  rw [List.length_map] at ordered
  refine Iff.trans ?_ ordered
  constructor
  · rintro ⟨drawn, went⟩
    obtain ⟨places, went, _⟩ := acquireAdaptive_ok went
    exact ⟨_, went⟩
  · rintro ⟨run, went⟩
    exact ⟨_, bind_ok_iff.mpr ⟨run, went, rfl⟩⟩

-- Words hold each weight but not what they add up to.
theorem acquireAdaptive_of_sum (several : 1 < s.eligible.length)
    (each : ∀ weight ∈ s.drawWeights, weight < 2 ^ 64) (beyond : 2 ^ 64 ≤ s.drawWeights.sum)
    {count : Nat} (positive : 0 < count) (ticket : UInt64 → γ → UInt64 × γ) (g : γ) :
    s.acquireAdaptive ticket count g = .error .sum := by
  have servers : 1 < (s.eligible.map Prod.fst).length := by rwa [List.length_map]
  rw [acquireAdaptive, Weighted.order_of_sum servers positive ticket g each beyond]
  rfl

section

variable {ticket : UInt64 → γ → UInt64 × γ} {count : Nat} {g : γ} {drawn : List Entry × γ}
  (went : s.acquireAdaptive ticket count g = .ok drawn)

include went

theorem mayServe_of_adaptive {entry : Entry} (member : entry ∈ drawn.1) :
    ∃ server, s.MayServe entry.index server ∧ entry = .of entry.index server := by
  obtain ⟨server, found, same, eligible⟩ := mem_acquireAdaptive went member
  exact ⟨server, mayServe_iff.mpr ⟨found, eligible⟩, same⟩

theorem length_acquireAdaptive : drawn.1.length = if s.eligible = [] then 0 else count := by
  obtain ⟨places, ordered, entries⟩ := acquireAdaptive_ok went
  rw [entries, entriesAt]
  split
  · rename_i empty
    simp [empty]
  · rename_i nonempty
    obtain ⟨length, inside⟩ := Weighted.order_spec ordered (by simpa using nonempty)
    rw [List.length_filterMap_eq_countP, List.countP_eq_length.mpr, length]
    intro p member
    have bound := inside p member
    rw [List.length_map] at bound
    simp [List.getElem?_eq_getElem bound]

theorem acquireAdaptive_eq_nil_iff (positive : 0 < count) : drawn.1 = [] ↔ s.eligible = [] := by
  rw [← List.length_eq_zero_iff, length_acquireAdaptive went]
  split
  · rename_i empty
    exact iff_of_true rfl empty
  · rename_i nonempty
    exact iff_of_false (Nat.ne_of_gt positive) nonempty

-- The entries go round all servers that may serve before one comes again.
theorem acquireAdaptive_rounds :
    ((drawn.1.take s.eligible.length).map (·.index)).Nodup ∧
    ∀ j, j < count → drawn.1[j]? = drawn.1[j % s.eligible.length]? := by
  obtain ⟨places, ordered, entries⟩ := acquireAdaptive_ok went
  cases some : s.eligible with
  | nil =>
    have none : drawn.1 = [] := by simp [entries, entriesAt, some]
    simp [none]
  | cons first others =>
    have servers : s.eligible.map Prod.fst ≠ [] := by simp [some]
    obtain ⟨distinct, round⟩ := Weighted.order_rounds ordered servers
    obtain ⟨_, inside⟩ := Weighted.order_spec ordered servers
    rw [List.length_map] at distinct round inside
    let entryAt (p : Nat) : Entry :=
      .of (s.eligible.getD p first).2 (s.eligible.getD p first).1
    have mapped : drawn.1 = places.map entryAt := by
      rw [entries, entriesAt, ← List.filterMap_eq_map (f := entryAt)]
      refine List.filterMap_congr fun p member => ?_
      simp [entryAt, List.getElem?_eq_getElem (inside p member)]
    have apart : ∀ p < s.eligible.length, ∀ q < s.eligible.length,
        (entryAt p).index = (entryAt q).index → p = q := by
      intro p within q within' same
      have there (r : Nat) (bound : r < s.eligible.length) :
          s.places[r]? = Option.some (entryAt r).index := by
        simp [Service.places, entryAt, Entry.of, List.getElem?_eq_getElem bound]
      refine (List.getElem?_inj (by rwa [length_places]) s.nodup_places).mp ?_
      rw [there p within, there q within', same]
    rw [← some, mapped]
    constructor
    · rw [← List.map_take, List.map_map]
      refine distinct.map_on fun p listed q listed' => ?_
      exact apart p (inside p (List.mem_of_mem_take listed)) q
        (inside q (List.mem_of_mem_take listed'))
    · intro j before
      rw [List.getElem?_map, List.getElem?_map, round j before]

theorem acquireAdaptive_ne_nil_iff :
    drawn.1 ≠ [] ↔ 1 ≤ count ∧ ∃ i server, s.MayServe i server := by
  rw [← eligible_ne_nil_iff, ← List.length_pos_iff, length_acquireAdaptive went]
  split
  · rename_i empty
    exact iff_of_false (Nat.lt_irrefl 0) fun both => both.2 empty
  · rename_i nonempty
    exact ⟨fun positive => ⟨positive, nonempty⟩, fun both => both.1⟩

end

end Service

namespace Moment

variable {m : Moment}

theorem mayServe_of_hands {entry : Entry} {server : Server} (handed : m.Hands entry server) :
    m.service.MayServe entry.index server := by
  obtain ⟨found, ⟨excluded, acquired⟩ | ⟨γ, ticket, count, g, drawn, went, member⟩⟩ := handed
  · obtain ⟨other, may, _⟩ := Service.mayServe_of_acquire acquired
    cases found.symm.trans may.found
    exact may
  · obtain ⟨other, may, _⟩ := Service.mayServe_of_adaptive went member
    cases found.symm.trans may.found
    exact may

-- What an acquire and an adaptive one give out at one moment.
structure WaysAgree (m : Moment) (excluded : List Nat) (count : Nat) : Prop where
  acquires : (m.service.acquire m.clock excluded).1.isSome ↔
    ∃ i server, m.service.MayServe i server ∧ i ∉ excluded
  counts : ∀ entry, (m.service.acquire m.clock excluded).1 = some entry →
    ∃ server, m.service.MayServe entry.index server ∧ entry.index ∉ excluded ∧
      entry = .of entry.index server ∧
      (m.service.acquire m.clock excluded).2.servers.map (·.requests)
        = (m.service.servers.map (·.requests)).set entry.index (server.requests + 1)
  leaves : (m.service.acquire m.clock excluded).1 = none →
    (m.service.acquire m.clock excluded).2 = m.service
  draws : ∀ w, (∃ drawn, m.service.acquireAdaptive Words.below count w = .ok drawn) ↔
    count = 0 ∨ m.service.eligible.length ≤ 1 ∨ m.service.drawWeights.sum < 2 ^ 64
  serve : ∀ w drawn, m.service.acquireAdaptive Words.below count w = .ok drawn →
    ∀ entry ∈ drawn.1, ∃ server, m.service.MayServe entry.index server ∧
      entry = .of entry.index server
  nonempty : ∀ w drawn, m.service.acquireAdaptive Words.below count w = .ok drawn →
    (drawn.1 ≠ [] ↔ 1 ≤ count ∧ ∃ i server, m.service.MayServe i server)
  single : ∀ w drawn, m.service.acquireAdaptive Words.below 1 w = .ok drawn →
    ((m.service.acquire m.clock []).1 = none ↔ drawn.1 = [])
  near : m.service.allowRemote = false → ∀ entry server, m.Hands entry server →
    server.isRemote m.service.datacenter = false

theorem both_ways_agree (m : Moment) (excluded : List Nat) (count : Nat) :
    m.WaysAgree excluded count := by
  refine ⟨?acquires, fun entry => Service.mayServe_of_acquire, ?leaves,
    Service.acquireAdaptive_ok_iff Words.below count,
    fun w drawn went entry => Service.mayServe_of_adaptive went,
    fun w drawn went => Service.acquireAdaptive_ne_nil_iff went, ?single, ?near⟩
  case acquires =>
    rw [← Option.ne_none_iff_isSome, ne_eq, Service.acquire_eq_none_iff]
    push Not
    rfl
  case leaves =>
    intro nothing
    exact Service.acquire_none (Prod.ext nothing rfl)
  case single =>
    intro w drawn went
    rw [Service.acquire_eq_none_iff, ← not_iff_not, ← ne_eq,
      Service.acquireAdaptive_ne_nil_iff went]
    push Not
    simp
  case near =>
    intro near entry server handed
    have may := mayServe_of_hands handed
    exact may.near.resolve_left (by rw [near]; exact Bool.false_ne_true)

theorem both_new_servers_drawn :
    let m := (create "shop" none false ⟨1, 1⟩ 0).run
      [.update .empty [{ address := "10.0.0.1:80" }, { address := "10.0.0.2:80" }]]
    (m.service.acquire m.clock [0]).1.isSome ∧ m.service.drawWeights = [1, 1] ∧
      ∀ w, ∃ drawn, m.service.acquireAdaptive Words.below 2 w = .ok drawn ∧ drawn.1 ≠ [] := by
  intro m
  have facts : (m.service.acquire m.clock [0]).1.isSome ∧ m.service.drawWeights = [1, 1] := by
    decide +kernel +revert
  have agree := both_ways_agree m [0] 2
  obtain ⟨i, server, may, _⟩ := agree.acquires.mp facts.1
  have fits : m.service.drawWeights.sum < 2 ^ 64 := by
    rw [facts.2]
    decide
  refine ⟨facts.1, facts.2, fun w => ?_⟩
  obtain ⟨drawn, went⟩ := (agree.draws w).mpr (.inr (.inr fits))
  exact ⟨drawn, went, (agree.nonempty w drawn went).mpr ⟨by decide, i, server, may⟩⟩

-- Each server reports one answer after 2^63 microseconds, so that both weigh 2^63.
theorem weights_beyond_a_word :
    let start := (create "shop" none false ⟨1, 1⟩ 0).run
      [.update .empty [{ address := "10.0.0.1:80" }, { address := "10.0.0.2:80" }]]
    let m := start.run (start.service.servers.zipIdx.map fun (server, i) =>
      .release "default" (.of i server) false 9223372036854775808 true)
    m.service.eligible.length = 2 ∧
      ∀ w, m.service.acquireAdaptive Words.below 2 w = .error .sum := by
  intro start m
  have facts : m.service.eligible.length = 2 ∧
      m.service.drawWeights = [9223372036854775808, 9223372036854775808] := by
    decide +kernel +revert
  have several : 1 < m.service.eligible.length := by
    rw [facts.1]
    decide
  have each : ∀ weight ∈ m.service.drawWeights, weight < 2 ^ 64 := by
    rw [facts.2]
    decide
  have beyond : 2 ^ 64 ≤ m.service.drawWeights.sum := by
    rw [facts.2]
    decide
  exact ⟨facts.1, Service.acquireAdaptive_of_sum several each beyond Nat.two_pos Words.below⟩

end Moment

end Balancing
