import Balancing.Proofs.Attempt.Course
import Balancing.Proofs.Attempt.Session
import Balancing.Proofs.Service.Eligible

namespace Balancing

namespace Service

-- What the use of a service leaves alone.
def setting (s : Service) : Bool × Option String × Bool := (s.enabled, s.datacenter, s.allowRemote)

theorem setting_acquire (s : Service) (now : Instant) (excluded : List Nat) :
    (s.acquire now excluded).2.setting = s.setting :=
  (congrArg setting (shell_acquire s now excluded) :)

theorem setting_release (s : Service) (now : Instant) (profile : String) (entry : Entry)
    (isError : Bool) (micros : UInt64) (adaptive : Bool) :
    (s.release now profile entry isError micros adaptive).1.setting = s.setting :=
  (congrArg setting (shell_release s now profile entry isError micros adaptive) :)

theorem setting_wake (s : Service) (now : Instant) : (s.wake now).setting = s.setting :=
  (congrArg setting (shell_wake s now) :)

-- Whether a server may be handed out, by the rules of the service at the start.
def allows (start : Service) : Server → Bool :=
  LeastLoaded.isEligible start.datacenter start.allowRemote

-- A service as it was at the start, but for the servers that have been tried. Of these it is only
-- known that they are still the same ones.
structure Spared (start : Service) (tried : List Nat) (s : Service) : Prop where
  setting : s.setting = start.setting
  ids : s.servers.map (·.id) = start.servers.map (·.id)
  alike : ∀ i, i ∉ tried →
    (s.servers.map start.allows)[i]? = (start.servers.map start.allows)[i]?
  waits : ∀ r ∈ s.pending, r ∈ start.pending ∨
    ∃ i ∈ tried, (start.servers.map (·.id))[i]? = some r.server

variable {start s : Service} {tried : List Nat}

theorem allows_rescale (start : Service) (server : Server) :
    start.allows server.rescale = start.allows server := by
  unfold Server.rescale
  split <;> rfl

theorem spared_refl (start : Service) : Spared start [] start :=
  ⟨rfl, rfl, fun _ _ => rfl, fun _ waits => .inl waits⟩

theorem Spared.cons (spared : Spared start tried s) (i : Nat) : Spared start (i :: tried) s where
  setting := spared.setting
  ids := spared.ids
  alike j outside := spared.alike j fun inside => outside (List.mem_cons_of_mem i inside)
  waits r waits := by
    rcases spared.waits r waits with old | ⟨j, member, same⟩
    · exact .inl old
    · exact .inr ⟨j, List.mem_cons_of_mem i member, same⟩

theorem spared_acquire (spared : Spared start tried s) (now : Instant) (excluded : List Nat) :
    Spared start tried (s.acquire now excluded).2 := by
  have allowed : (s.acquire now excluded).2.servers.map start.allows
      = s.servers.map start.allows := by
    rcases acquire_cases s now excluded with nothing | ⟨i, server, found, lent⟩
    · rw [nothing]
    · rw [lent, map_acquired (allows_rescale start)]
      exact map_set_same found rfl
  refine ⟨(setting_acquire ..).trans spared.setting,
    (map_acquire Server.fixed_id ..).trans spared.ids, ?_, ?_⟩
  · rw [allowed]
    exact spared.alike
  · have pending : (s.acquire now excluded).2.pending = s.pending := by
      rcases acquire_cases s now excluded with nothing | ⟨i, server, _, lent⟩
      · rw [nothing]
      · rw [lent]
        rfl
    rw [pending]
    exact spared.waits

-- Nobody comes back meanwhile but those that the request itself has taken out.
theorem spared_wake (spared : Spared start tried s) (nodup : (start.servers.map (·.id)).Nodup)
    {now : Instant} (early : ∀ r ∈ start.pending, now < r.due) :
    Spared start tried (s.wake now) := by
  refine ⟨(setting_wake ..).trans spared.setting,
    (map_wake Server.fixed_id.activate ..).trans spared.ids, fun i outside => ?_, ?_⟩
  · rw [← spared.alike i outside, wake_eq]
    dsimp only
    rw [reactivate, List.map_map, List.getElem?_map, List.getElem?_map]
    cases found : s.servers[i]? with
    | none => rfl
    | some server =>
      have id : (start.servers.map (·.id))[i]? = some server.id := by
        rw [← spared.ids, List.getElem?_map, found]
        rfl
      have asleep : (s.dueIds now).contains server.id = false := by
        rw [← Bool.not_eq_true, List.contains_iff_mem]
        intro due
        obtain ⟨r, fires, same⟩ := List.mem_map.mp due
        obtain ⟨waits, reached⟩ := List.mem_filter.mp fires
        rcases spared.waits r waits with old | ⟨j, member, there⟩
        · exact Nat.not_le.mpr (early r old) (of_decide_eq_true reached)
        · have inside := (List.getElem?_eq_some_iff.mp id).1
          rw [same, ← id] at there
          have equal : i = j := (List.getElem?_inj inside nodup).mp there.symm
          exact outside (equal ▸ member)
      simp only [Option.map_some, Function.comp_apply, asleep, Bool.false_eq_true, if_false]
  · intro r waits
    rw [wake_eq] at waits
    exact spared.waits r (List.mem_filter.mp waits).1

theorem spared_release (spared : Spared start tried s) (now : Instant) (profile : String)
    {entry : Entry} (inside : entry.index ∈ tried) (isError : Bool) (micros : UInt64) :
    Spared start tried (s.release now profile entry isError micros false).1 := by
  refine ⟨(setting_release ..).trans spared.setting,
    (map_release Server.fixed_id ..).trans spared.ids, fun i outside => ?_, fun r waits => ?_⟩
  · have elsewhere : entry.index ≠ i := fun same => outside (same ▸ inside)
    rw [← spared.alike i outside]
    exact getElem?_release_of_ne (allows_rescale start) s now profile isError micros false elsewhere
  · cases found : s.serverOf? entry with
    | none =>
      rw [release_of_none found] at waits
      exact spared.waits r waits
    | some server =>
      rcases release_static found now profile isError micros with stays | ⟨p, _, _, leaves⟩
      · rw [stays] at waits
        exact spared.waits r waits
      · rw [leaves] at waits
        rcases List.mem_append.mp waits with old | new
        · exact spared.waits r old
        · have there := (serverOf?_eq_some_iff.mp found).1
          rw [List.mem_singleton.mp new]
          refine .inr ⟨entry.index, inside, ?_⟩
          rw [← spared.ids, List.getElem?_map, there]
          rfl

theorem mem_places_iff_getElem? {i : Nat} :
    i ∈ s.places ↔ (s.servers.map s.allows)[i]? = some true := by
  rw [mem_places, List.getElem?_map, Option.map_eq_some_iff]
  simp only [mayServe_iff, allows]

theorem mem_places_of_spared (spared : Spared start tried s) {i : Nat} (outside : i ∉ tried) :
    i ∈ s.places ↔ i ∈ start.places := by
  have same : s.allows = start.allows := by
    have setting := spared.setting
    simp only [Service.setting, Prod.mk.injEq] at setting
    unfold allows
    rw [setting.2.1, setting.2.2]
  rw [mem_places_iff_getElem?, mem_places_iff_getElem?, same, spared.alike i outside]

end Service

namespace ServiceScene

-- A look at an enabled service finds the server that the choice names, or everything is tried.
theorem resolve_enabled {scene : ServiceScene} (enabled : scene.service.enabled = true)
    (tries : Nat) (request : Request) :
    let s := scene.service
    let looked := resolve false tries request scene
    (looked.1 = .error .noAvailableServers ∧ ∀ i ∈ s.places, i ∈ scene.tried) ∨
    ∃ i server, LeastLoaded.select? s.servers scene.tried s.datacenter s.allowRemote scene.clock
        = some i ∧ s.servers[i]? = some server ∧ i ∈ s.places ∧ i ∉ scene.tried ∧
      looked.1 = .ok (aim request (.of i server)) ∧
      looked.2.1 = { scene with service := (s.acquire scene.clock scene.tried).2 } := by
  intro s looked
  rcases Service.acquire_chosen s scene.clock scene.tried
    with ⟨nothing, nobody⟩ | ⟨i, server, may, outside, lent, _⟩
  · refine .inl ⟨?_, fun i listed => ?_⟩
    · simp [looked, resolve, enabled, nextStatic, s, nothing]
    · obtain ⟨server, may⟩ := Service.mem_places.mp listed
      exact nobody i server may
  · have chosen := Service.select?_of_acquire (congrArg Prod.fst lent)
    refine .inr ⟨i, server, chosen, may.found, Service.mem_places.mpr ⟨server, may⟩, outside, ?_⟩
    rw [lent]
    simp [looked, resolve, enabled, nextStatic, s, lent]

end ServiceScene

namespace Attempt

variable {τ : Type}

-- The place of the server that an attempt went to.
def Made.place? {σ ε : Type} (made : Made σ τ ε) : Option Nat :=
  made.target.entry.map (·.index)

variable {plan : Plan ServiceScene τ Suspension} {name : String} {adaptive : Bool}

-- What an attempt leaves when another look follows: time has passed, the outcome is with the
-- service, and the server is among the tried ones.
theorem source_make (serves : plan.source.Serves name adaptive) {budget : Budget}
    {progress : Progress} {target : Target} {entry : Entry} (aimed : target.entry = some entry)
    {scene : ServiceScene} {t : τ}
    (again : (make plan budget progress target scene t).again = true) :
    ∃ pause isError micros, (make plan budget progress target scene t).source
      = { ((scene.passed pause).released name entry isError micros adaptive).1 with
          tried := entry.index :: scene.tried } := by
  have started := serves.started target scene
  have passed := serves.passed
  have completed := serves.completed
  have decided := serves.decided
  simp only [make, started, passed] at again ⊢
  generalize (plan.send _ t).1 = reply at again ⊢
  simp only [settle, completed, decided, ServiceScene.completed, aimed] at again ⊢
  cases left : (budget.charge reply.result.elapsed).canRetry with
  | false => simp [left] at again
  | true =>
    rw [left, Bool.true_and] at again
    refine ⟨reply.pause, plan.source.isServerError reply.result.response,
      reply.result.elapsed.micros, ?_⟩
    obtain ⟨allowed, kept⟩ := serves.mayRetry reply.result.response plan.idempotent
      ((scene.passed reply.pause).released name entry
        (plan.source.isServerError reply.result.response) reply.result.elapsed.micros adaptive).1
    simp only [if_true, kept] at again ⊢
    cases again
    simp only [ServiceScene.decided, aimed]
    rfl

-- An attempt on the server of an entry.
structure Made.GoesTo {σ ε : Type} (made : Made σ τ ε) (request : Request) (entry : Entry) :
    Prop where
  aimed : made.target = ServiceScene.aim request entry
  sent : made.call.request.uri = (request.retarget entry.endpoint).uri

-- An attempt on the server that the choice names when the places tried so far are excluded.
structure Made.Picks (made : Made ServiceScene τ Suspension) (request : Request)
    (scene : ServiceScene) (i : Nat) (server : Server) : Prop where
  chosen : LeastLoaded.select? scene.service.servers scene.tried scene.service.datacenter
    scene.service.allowRemote scene.clock = some i
  found : scene.service.servers[i]? = some server
  goes : made.GoesTo request (.of i server)

-- A scene in which each of the earlier attempts has been on another of the servers that could serve
-- at the start.
structure Toured (origin : Service) (earlier : List (Made ServiceScene τ Suspension))
    (scene : ServiceScene) : Prop where
  spared : Service.Spared origin scene.tried scene.service
  nodup : scene.tried.Nodup
  within : scene.tried ⊆ origin.places
  recorded : scene.tried.map some = (earlier.map Made.place?).reverse

variable {origin : Service} {earlier : List (Made ServiceScene τ Suspension)}
  {scene : ServiceScene}

theorem Toured.length_tried (toured : Toured origin earlier scene) :
    scene.tried.length = earlier.length := by
  have same := congrArg List.length toured.recorded
  simpa using same

-- Whatever the look of a tour finds has not been tried before.
theorem look_of_toured (serves : plan.source.Serves name false)
    (enabled : origin.enabled = true) (toured : Toured origin earlier scene) :
    let looked := plan.source.resolve plan.request scene
    (looked.1 = .error .noAvailableServers ∧ origin.places ⊆ scene.tried) ∨
    ∃ i server, looked.1 = .ok (ServiceScene.aim plan.request (.of i server)) ∧
      looked.2.1
        = { scene with service := (scene.service.acquire scene.clock scene.tried).2 } ∧
      i ∈ origin.places ∧ i ∉ scene.tried ∧
      ∀ budget progress t, (make plan budget progress
        (ServiceScene.aim plan.request (.of i server)) looked.2.1 t).Picks plan.request scene i
        server := by
  intro looked
  obtain ⟨tries, resolve⟩ := serves.resolve
  have switched : scene.service.enabled = true :=
    (congrArg Prod.fst toured.spared.setting).trans enabled
  have found := ServiceScene.resolve_enabled switched tries plan.request
  rw [← resolve] at found
  rcases found with ⟨refused, nobody⟩ | ⟨i, server, chosen, there, listed, outside, aimed, left⟩
  · refine .inl ⟨refused, fun i member => ?_⟩
    apply Classical.byContradiction
    intro outside
    have listed := (Service.mem_places_of_spared toured.spared outside).mpr member
    exact outside (nobody i listed)
  · have member := (Service.mem_places_of_spared toured.spared outside).mp listed
    exact .inr ⟨i, server, aimed, left, member, outside, fun _ _ _ =>
      ⟨chosen, there, rfl, rfl⟩⟩

theorem toured_make (serves : plan.source.Serves name false)
    (nodup : (origin.servers.map (·.id)).Nodup) (toured : Toured origin earlier scene) {i : Nat}
    {server : Server} (member : i ∈ origin.places) (outside : i ∉ scene.tried) {budget : Budget}
    {progress : Progress} {t : τ}
    (again : (make plan budget progress (ServiceScene.aim plan.request (.of i server))
      { scene with service := (scene.service.acquire scene.clock scene.tried).2 } t).again = true) :
    let made := make plan budget progress (ServiceScene.aim plan.request (.of i server))
      { scene with service := (scene.service.acquire scene.clock scene.tried).2 } t
    (∀ r ∈ origin.pending, made.source.clock < r.due) →
      Toured origin (earlier ++ [made]) made.source := by
  intro made early
  obtain ⟨pause, isError, micros, left⟩ := source_make serves rfl again
  have left : made.source = _ := left
  rw [left] at early ⊢
  have acquired := (Service.spared_acquire toured.spared scene.clock scene.tried).cons i
  have waited := Service.spared_wake acquired nodup early
  refine ⟨?_, ?_, ?_, ?_⟩
  · exact Service.spared_release waited _ name List.mem_cons_self isError micros
  · exact List.nodup_cons.mpr ⟨outside, toured.nodup⟩
  · exact List.cons_subset.mpr ⟨member, toured.within⟩
  · rw [List.map_append, List.reverse_append, ← toured.recorded]
    rfl

-- What is in no earlier position is there once.
theorem nodup_of_not_mem_take {α : Type} {l : List α}
    (fresh : ∀ k a, l[k]? = some a → a ∉ l.take k) : l.Nodup := by
  refine List.pairwise_iff_getElem.mpr fun j k inside inside' less same => ?_
  refine fresh k _ (List.getElem?_eq_getElem inside') ?_
  rw [← same]
  exact List.mem_take_iff_getElem.mpr ⟨j, by omega, rfl⟩

-- What a new request over a service begins with.
def opening (m : Moment) (words : Words) : ServiceScene := .opening m.service m.clock words

-- A request over a service that nobody else uses meanwhile: every response allows another attempt,
-- the time is not spent, and no server comes back that was out when the request began.
structure Alone (m : Moment) (profile : Profile) (force : Bool)
    (plan : Plan ServiceScene τ Suspension) (words : Words) (t : τ) : Prop where
  retriable : Retriable profile force plan (opening m words) t
  undisturbed : ∀ made ∈ (course plan (opening m words) t).made,
    ∀ r ∈ m.service.pending, made.source.clock < r.due

section

variable {m : Moment} {profile : Profile} {force : Bool} {words : Words} {t : τ}
  (serves : plan.source.Serves name false) (numbered : m.service.Numbered)
  (enabled : m.service.enabled = true)

include serves numbered enabled

-- One attempt of a tour, and the tour that it leaves if another look follows.
theorem attempt_of_toured {first : ServiceScene} {k : Nat} {made : Made ServiceScene τ Suspension}
    (kth : (course plan first t).made[k]? = some made)
    (toured : Toured m.service ((course plan first t).made.take k)
      ((course plan first t).before first k)) :
    ∃ i server, made.Picks plan.request ((course plan first t).before first k) i server ∧
      i ∈ m.service.places ∧ i ∉ ((course plan first t).before first k).tried ∧
      (made.again = true → (∀ r ∈ m.service.pending, made.source.clock < r.due) →
        Toured m.service ((course plan first t).made.take (k + 1)) made.source) := by
  have nodup : (m.service.servers.map (·.id)).Nodup :=
    (List.nodup_append.mp numbered.nodup).1
  obtain ⟨budget, progress, target, s', notes, t', resolved, rfl⟩ := look_of_made _ _ _ _ k made kth
  have looked := look_of_toured serves enabled toured
  rw [resolved] at looked
  rcases looked with ⟨refused, _⟩ | ⟨i, server, aimed, rfl, member, outside, picks⟩
  · cases refused
  · cases aimed
    refine ⟨i, server, picks budget progress t', member, outside, fun again early => ?_⟩
    rw [List.take_add_one, kth]
    exact toured_make serves nodup toured member outside again early

variable (alone : Alone m profile force plan words t)

include alone

theorem toured_of_alone :
    let h := course plan (opening m words) t
    ∀ k, k < h.looks → Toured m.service (h.made.take k) (h.before (opening m words) k) := by
  intro h
  refine before_induction (fun k s => Toured m.service (h.made.take k) s)
    ⟨Service.spared_refl m.service, List.nodup_nil, List.nil_subset _, rfl⟩ ?_
  intro h k made kth again toured
  obtain ⟨_, _, _, _, _, next⟩ := attempt_of_toured serves numbered enabled kth toured
  exact next again (alone.undisturbed made (List.mem_of_getElem? kth))

theorem picks_of_alone :
    let h := course plan (opening m words) t
    ∀ k made, h.made[k]? = some made →
      (h.before (opening m words) k).tried.map some
        = ((h.made.take k).map Made.place?).reverse ∧
      ∃ i server, made.Picks plan.request (h.before (opening m words) k) i server ∧
        i ∈ m.service.places ∧ some i ∉ (h.made.take k).map Made.place? := by
  intro h k made kth
  have toured := toured_of_alone serves numbered enabled alone k (lt_looks_of_made kth)
  obtain ⟨i, server, picks, member, outside, _⟩ :=
    attempt_of_toured serves numbered enabled kth toured
  refine ⟨toured.recorded, i, server, picks, member, fun repeated => ?_⟩
  rw [← List.mem_reverse, ← toured.recorded] at repeated
  exact outside (by simpa using repeated)

theorem place?_of_alone {k : Nat} {made : Made ServiceScene τ Suspension}
    (kth : (course plan (opening m words) t).made[k]? = some made) :
    ∃ i ∈ m.service.places, made.place? = some i ∧
      some i ∉ ((course plan (opening m words) t).made.take k).map Made.place? := by
  obtain ⟨_, i, server, picks, member, fresh⟩ :=
    picks_of_alone serves numbered enabled alone k made kth
  refine ⟨i, member, ?_, fresh⟩
  rw [Made.place?, picks.goes.aimed]
  rfl

theorem apart_of_alone : ((course plan (opening m words) t).made.map Made.place?).Nodup := by
  refine nodup_of_not_mem_take fun k place kth => ?_
  rw [List.getElem?_map] at kth
  obtain ⟨made, there, rfl⟩ := Option.map_eq_some_iff.mp kth
  obtain ⟨i, _, same, fresh⟩ := place?_of_alone serves numbered enabled alone there
  rw [← List.map_take, same]
  exact fresh

theorem length_made_le_of_alone :
    (course plan (opening m words) t).made.length ≤ m.service.eligible.length := by
  have inside : (course plan (opening m words) t).made.map Made.place?
      ⊆ m.service.places.map some := by
    intro place member
    obtain ⟨made, listed, rfl⟩ := List.mem_map.mp member
    obtain ⟨k, kth⟩ := List.mem_iff_getElem?.mp listed
    obtain ⟨i, within, same, _⟩ := place?_of_alone serves numbered enabled alone kth
    rw [same]
    exact List.mem_map_of_mem within
  have apart := apart_of_alone serves numbered enabled alone
  have shorter := (apart.subperm inside).length_le
  rwa [List.length_map, List.length_map, Service.length_places] at shorter

-- A look is refused only when every server has been tried.
theorem le_length_made_of_refusal {response : Response}
    (refused : (course plan (opening m words) t).refusal = some response) :
    m.service.eligible.length ≤ (course plan (opening m words) t).made.length ∧
    response = .noAvailableServers := by
  have toured := toured_of_alone serves numbered enabled alone _ (lt_looks_of_refusal refused)
  obtain ⟨s', notes, resolved⟩ := look_of_refusal _ _ _ _ _ refused
  have looked := look_of_toured serves enabled toured
  rw [resolved] at looked
  rcases looked with ⟨nobody, all⟩ | ⟨i, server, aimed, _⟩
  · have shorter := (m.service.nodup_places.subperm all).length_le
    rw [Service.length_places, toured.length_tried, List.length_take] at shorter
    exact ⟨Nat.le_trans shorter (Nat.min_le_left ..), Except.error.inj nobody⟩
  · cases aimed

end

-- What one request has made of a service of which so many servers could serve.
structure Covers (m : Moment) (profile : Profile) (plan : Plan ServiceScene τ Suspension)
    (words : Words) (t : τ) : Prop where
  calls : callsOf (start plan (opening m words) t).log
    = (course plan (opening m words) t).made.map (·.call)
  attempts : (course plan (opening m words) t).made.length
    = min (max profile.maxTries.toNat 1) m.service.eligible.length
  apart : ((course plan (opening m words) t).made.map Made.place?).Nodup
  chosen : let h := course plan (opening m words) t
    ∀ k made, h.made[k]? = some made →
      (h.before (opening m words) k).tried.map some
        = ((h.made.take k).map Made.place?).reverse ∧
      ∃ i server, made.Picks plan.request (h.before (opening m words) k) i server
  answered : max profile.maxTries.toNat 1 ≤ m.service.eligible.length →
    ∃ made, (course plan (opening m words) t).made.getLast? = some made ∧
      (start plan (opening m words) t).response = made.result.response
  exhausted : m.service.eligible.length < max profile.maxTries.toNat 1 →
    (start plan (opening m words) t).response = .noAvailableServers

theorem covers_of_alone {m : Moment} {profile : Profile} {force : Bool} {words : Words} {t : τ}
    (serves : plan.source.Serves name false) (follows : Source.Follows plan.source profile)
    (idempotent : plan.idempotent = plan.request.isIdempotent force)
    (numbered : m.service.Numbered) (enabled : m.service.enabled = true)
    (alone : Alone m profile force plan words t) : Covers m profile plan words t := by
  have calls : callsOf (start plan (opening m words) t).log
      = (course plan (opening m words) t).made.map (·.call) := callsOf_run ..
  have apart := apart_of_alone serves numbered enabled alone
  have most := length_made_le_of_alone serves numbered enabled alone
  have chosen : let h := course plan (opening m words) t
      ∀ k made, h.made[k]? = some made →
        (h.before (opening m words) k).tried.map some
          = ((h.made.take k).map Made.place?).reverse ∧
        ∃ i server, made.Picks plan.request (h.before (opening m words) k) i server := by
    intro h k made kth
    obtain ⟨recorded, i, server, picks, _⟩ :=
      picks_of_alone serves numbered enabled alone k made kth
    exact ⟨recorded, i, server, picks⟩
  rcases ends_of_retriable (looks_again_of_follows follows idempotent _ t) alone.retriable
    with ⟨full, _, last⟩ | ⟨short, refused⟩
  · refine ⟨calls, ?_, apart, chosen, fun _ => last, fun few => ?_⟩
    · rw [full, min_eq_left (full ▸ most)]
    · exact absurd (Nat.lt_of_lt_of_le few (full ▸ most)) (Nat.lt_irrefl _)
  · obtain ⟨least, nobody⟩ := le_length_made_of_refusal serves numbered enabled alone refused
    have all := Nat.le_antisymm most least
    refine ⟨calls, ?_, apart, chosen, fun many => ?_, fun _ => nobody⟩
    · rw [all, min_eq_right (Nat.le_of_lt (all ▸ short))]
    · exact absurd (Nat.lt_of_lt_of_le short (all ▸ many)) (Nat.lt_irrefl _)

end Attempt

end Balancing
