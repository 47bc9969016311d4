import Balancing.Proofs.Service.Eligible

namespace Balancing

-- What the rotation is about: which server, and whether it is in.
def Server.badge (s : Server) : Nat × Bool := (s.id, s.active)

theorem Server.badge_rescale (s : Server) : s.rescale.badge = s.badge := by
  unfold rescale
  split <;> rfl

theorem Server.badge_recordOutcome (s : Server) (isError : Bool) (micros : UInt64) :
    (s.recordOutcome isError micros).badge = s.badge := by
  unfold recordOutcome
  split <;> rfl

namespace Service

def badges (s : Service) : List (Nat × Bool) := s.everyone.map Server.badge

variable {s s' : Service}

theorem map_fst_badges (s : Service) : s.badges.map Prod.fst = s.ids := by
  rw [badges, List.map_map, ← map_id_everyone]
  rfl

theorem badges_eq (s : Service) :
    s.badges = s.servers.map Server.badge ++ s.retired.map Server.badge := List.map_append ..

theorem badges_congr (servers : s'.servers.map Server.badge = s.servers.map Server.badge)
    (retired : s'.retired = s.retired) : s'.badges = s.badges := by
  rw [badges_eq, badges_eq, servers, retired]

theorem everyone_wake (s : Service) (now : Instant) :
    (s.wake now).everyone = reactivate (s.dueIds now) s.everyone := by
  rw [wake_eq]
  exact List.map_append.symm

theorem badges_wake (s : Service) (now : Instant) :
    (s.wake now).badges
      = s.badges.map fun (id, active) => (id, active || (s.dueIds now).contains id) := by
  unfold badges
  rw [everyone_wake, reactivate, List.map_map, List.map_map]
  refine List.map_congr_left fun server _ => ?_
  simp only [Function.comp_apply, Server.badge]
  split
  · rename_i due
    rw [due, Bool.or_true]
    rfl
  · rename_i early
    rw [Bool.not_eq_true] at early
    rw [early, Bool.or_false]

theorem getElem?_badges {i : Nat} {server : Server} (found : s.servers[i]? = some server) :
    s.badges[i]? = some server.badge := by
  have inside := (List.getElem?_eq_some_iff.mp found).1
  rw [badges_eq, List.getElem?_append_left (by simpa using inside), List.getElem?_map, found]
  rfl

theorem badges_suspend {i : Nat} {server released : Server} (found : s.servers[i]? = some server)
    (same : released.id = server.id) (now : Instant) (delay : Duration) :
    ((s.setServer i released).suspend now i released delay).badges
      = s.badges.set i (server.id, false) := by
  have inside := (List.getElem?_eq_some_iff.mp found).1
  rw [badges_eq, badges_eq, List.set_append_left _ _ (by simpa using inside),
    map_suspend Server.badge_rescale, ← same]
  rfl

-- How many reactivations of one server are left when those that are due have fired.
theorem countP_not_due (s : Service) (now : Instant) (id : Nat) :
    ((s.dueIds now).contains id = true →
      (s.pending.filter (!isDue now ·)).countP (·.server == id)
        < s.pending.countP (·.server == id)) ∧
    ((s.dueIds now).contains id = false →
      (s.pending.filter (!isDue now ·)).countP (·.server == id)
        = s.pending.countP (·.server == id)) := by
  have split := List.countP_eq_countP_filter_add s.pending (·.server == id) (isDue now)
  have fired : (s.dueIds now).contains id = true ↔
      0 < (s.pending.filter (isDue now)).countP (·.server == id) := by
    unfold dueIds
    rw [List.contains_iff_mem, List.mem_map, List.countP_pos_iff]
    simp only [beq_iff_eq]
  refine ⟨fun due => ?_, fun early => ?_⟩
  · have positive := fired.mp due
    omega
  · have none : ¬0 < (s.pending.filter (isDue now)).countP (·.server == id) := by
      rw [← fired, early]
      exact Bool.false_ne_true
    omega

end Service

namespace Moment

open Service

-- Everything that an action can do to the rotation.
inductive Turn (m : Moment) : Action → List (Nat × Bool) → List Reactivation → Prop where
  | same (action : Action) : Turn m action m.service.badges m.service.pending
  | join (profiles : Profiles) (specs : List ServerSpec) (count : Nat)
      (badges : List (Nat × Bool))
      (perm : badges.Perm
        (m.service.badges ++ (List.range' m.service.nextId count).map (·, true))) :
      Turn m (.update profiles specs) badges m.service.pending
  | leave (profile : String) (entry : Entry) (micros : UInt64) (p : Profile) (i id : Nat)
      (configured : m.service.profile? profile = some p)
      (found : m.service.badges[i]? = some (id, true)) :
      Turn m (.release profile entry true micros false) (m.service.badges.set i (id, false))
        (m.service.pending ++ [⟨m.clock + p.failTimeout.nanoseconds, id⟩])
  | wake (nanoseconds : Nat) :
      Turn m (.pass nanoseconds)
        (m.service.badges.map fun (id, active) =>
          (id, active || (m.service.dueIds (m.clock + nanoseconds)).contains id))
        (m.service.pending.filter (!isDue (m.clock + nanoseconds) ·))

theorem turn_release (m : Moment) (profile : String) (entry : Entry) (isError : Bool)
    (micros : UInt64) (adaptive : Bool) :
    let action := Action.release profile entry isError micros adaptive
    m.Turn action (m.after action).service.badges (m.after action).service.pending := by
  intro action
  have unchanged (service : Service)
      (servers : service.servers.map Server.badge = m.service.servers.map Server.badge)
      (retired : service.retired = m.service.retired)
      (pending : service.pending = m.service.pending) :
      m.Turn action service.badges service.pending := by
    rw [badges_congr servers retired, pending]
    exact .same action
  show m.Turn action (m.service.release m.clock profile entry isError micros adaptive).1.badges
    (m.service.release m.clock profile entry isError micros adaptive).1.pending
  cases reached : m.service.serverOf? entry with
  | none =>
    rw [release_of_none reached]
    exact .same action
  | some server =>
    have found := (serverOf?_eq_some_iff.mp reached).1
    cases adaptive with
    | true =>
      refine unchanged _ (map_release_adaptive Server.badge_recordOutcome ..)
        (retired_release ..).1 ?_
      rw [release_adaptive reached]
      rfl
    | false =>
      rcases release_static reached m.clock profile isError micros
        with stays | ⟨p, configured, suspends, leaves⟩
      · rw [stays]
        refine unchanged _ ?_ rfl rfl
        show (m.service.servers.set _ _).map Server.badge = _
        rw [List.map_set]
        exact map_set_same found rfl
      · obtain ⟨rfl, released⟩ := of_suspends suspends
        have active : server.active = true := released
        have place : m.service.badges[entry.index]? = some (server.id, true) := by
          rw [getElem?_badges found, Server.badge, active]
        have out := Turn.leave profile entry micros p entry.index server.id configured place
        have badges := badges_suspend found (rfl : (server.release true).id = server.id) m.clock
          p.failTimeout
        rw [leaves]
        dsimp only
        rw [badges]
        exact out

theorem turn_acquire (m : Moment) (excluded : List Nat) :
    let action := Action.acquire excluded
    m.Turn action (m.after action).service.badges (m.after action).service.pending := by
  intro action
  show m.Turn action (m.service.acquire m.clock excluded).2.badges
    (m.service.acquire m.clock excluded).2.pending
  rcases acquire_cases m.service m.clock excluded with nothing | ⟨i, server, found, lent⟩
  · rw [nothing]
    exact .same action
  · have servers : (m.service.acquire m.clock excluded).2.servers.map Server.badge
        = m.service.servers.map Server.badge := by
      rw [lent, map_acquired Server.badge_rescale]
      exact map_set_same found rfl
    rw [badges_congr servers (retired_acquire ..).1, lent]
    exact .same action

theorem turn_update (m : Moment) (profiles : Profiles) (specs : List ServerSpec) :
    let action := Action.update profiles specs
    m.Turn action (m.after action).service.badges (m.after action).service.pending := by
  intro action
  show m.Turn action (after m action).service.badges _
  unfold after
  dsimp only [action]
  split
  · rename_i service updated
    obtain ⟨fresh, perm, numbers, _, new⟩ := everyone_update updated
    have pending : service.pending = m.service.pending := by
      obtain ⟨r, slowStart, _, rfl⟩ := update_ok updated
      rfl
    have joined : fresh.map Server.badge
        = (List.range' m.service.nextId fresh.length).map (·, true) := by
      rw [← numbers, List.map_map]
      refine List.map_congr_left fun server member => ?_
      rw [Server.badge, (new server member).active]
      rfl
    have moved := perm.map Server.badge
    rw [List.map_append, joined] at moved
    rw [pending]
    exact .join profiles specs fresh.length _ moved
  · exact .same action

theorem turn_after (m : Moment) (action : Action) :
    m.Turn action (m.after action).service.badges (m.after action).service.pending := by
  cases action with
  | acquire excluded => exact turn_acquire m excluded
  | release profile entry isError micros adaptive => exact turn_release ..
  | update profiles specs => exact turn_update m profiles specs
  | enable enabled => exact .same _
  | pass nanoseconds =>
    show m.Turn _ (m.service.wake (m.clock + nanoseconds)).badges
      (m.service.wake (m.clock + nanoseconds)).pending
    rw [badges_wake, wake_eq]
    exact .wake nanoseconds

-- A server is out exactly while its one reactivation is pending.
structure Tracked (m : Moment) : Prop where
  numbered : m.service.Numbered
  count : ∀ badge ∈ m.service.badges,
    m.service.pending.countP (·.server == badge.1) = if badge.2 then 0 else 1
  known : ∀ r ∈ m.service.pending, r.server ∈ m.service.ids

theorem tracked_create (name : String) (datacenter : Option String) (allowRemote : Bool)
    (windows : Windows) (clock : Instant) :
    (create name datacenter allowRemote windows clock).Tracked where
  numbered := numbered_create ..
  count _ member := absurd member List.not_mem_nil
  known _ member := absurd member List.not_mem_nil

variable {m : Moment} {action : Action} {badges : List (Nat × Bool)} {pending : List Reactivation}

theorem nodup_badges (tracked : m.Tracked) : (m.service.badges.map Prod.fst).Nodup := by
  rw [map_fst_badges]
  exact tracked.numbered.nodup

theorem mem_ids_of_badge {badge : Nat × Bool} (member : badge ∈ m.service.badges) :
    badge.1 ∈ m.service.ids := by
  rw [← map_fst_badges]
  exact List.mem_map_of_mem member

theorem count_of_turn (tracked : m.Tracked) (turn : m.Turn action badges pending)
    {badge : Nat × Bool} (member : badge ∈ badges) :
    pending.countP (·.server == badge.1) = if badge.2 then 0 else 1 := by
  cases turn with
  | same => exact tracked.count badge member
  | join profiles specs count badges perm =>
    rcases List.mem_append.mp (perm.mem_iff.mp member) with old | new
    · exact tracked.count badge old
    · obtain ⟨id, fresh, rfl⟩ := List.mem_map.mp new
      have least := (List.mem_range'_1.mp fresh).1
      rw [if_pos rfl, List.countP_eq_zero]
      intro r waits
      have known := tracked.numbered.lt _ (tracked.known r waits)
      simp only [beq_iff_eq]
      omega
  | leave profile entry micros p i id configured found =>
    rw [List.countP_append, List.countP_singleton]
    rcases mem_set_of_nodup (nodup_badges tracked) found member with rfl | ⟨old, other⟩
    · have inside := tracked.count (id, true) (List.mem_of_getElem? found)
      rw [inside]
      simp
    · have elsewhere : ¬((id == badge.1) = true) := by simpa using Ne.symm other
      rw [tracked.count badge old, if_neg elsewhere, Nat.add_zero]
  | wake nanoseconds =>
    obtain ⟨⟨id, active⟩, old, rfl⟩ := List.mem_map.mp member
    have before := tracked.count (id, active) old
    obtain ⟨fewer, same⟩ := countP_not_due m.service (m.clock + nanoseconds) id
    dsimp only at before ⊢
    by_cases due : (m.service.dueIds (m.clock + nanoseconds)).contains id = true
    · have fewer := fewer due
      have most : (if active = true then 0 else 1) ≤ 1 := by split <;> omega
      simp only [due, Bool.or_true, if_true]
      omega
    · have early := Bool.eq_false_of_not_eq_true due
      simp only [early, Bool.or_false]
      exact (same early).trans before

-- No action makes a server disappear.
theorem mem_fst_of_turn (turn : m.Turn action badges pending) {id : Nat}
    (known : id ∈ m.service.ids) : id ∈ badges.map Prod.fst := by
  rw [← map_fst_badges] at known
  cases turn with
  | same => exact known
  | join profiles specs count badges perm =>
    rw [(perm.map Prod.fst).mem_iff, List.map_append]
    exact List.mem_append_left _ known
  | leave profile entry micros p i other configured found =>
    have same : (m.service.badges.map Prod.fst).set i other = m.service.badges.map Prod.fst :=
      map_set_same found rfl
    rw [List.map_set, same]
    exact known
  | wake nanoseconds =>
    rw [List.map_map]
    exact known

theorem known_of_turn (tracked : m.Tracked) (turn : m.Turn action badges pending)
    {r : Reactivation} (waits : r ∈ pending) : r.server ∈ m.service.ids := by
  cases turn with
  | same => exact tracked.known r waits
  | join => exact tracked.known r waits
  | leave profile entry micros p i id configured found =>
    rcases List.mem_append.mp waits with old | new
    · exact tracked.known r old
    · rw [List.mem_singleton.mp new]
      exact mem_ids_of_badge (List.mem_of_getElem? found)
  | wake nanoseconds => exact tracked.known r (List.mem_filter.mp waits).1

theorem tracked_after (tracked : m.Tracked) (action : Action) : (m.after action).Tracked := by
  have turn := turn_after m action
  constructor
  · exact numbered_after tracked.numbered action
  · intro badge member
    exact count_of_turn tracked turn member
  · intro r waits
    rw [← map_fst_badges]
    exact mem_fst_of_turn turn (known_of_turn tracked turn waits)

theorem tracked_run (tracked : m.Tracked) (actions : List Action) : (m.run actions).Tracked := by
  induction actions generalizing m with
  | nil => exact tracked
  | cons action actions ih => exact ih (tracked_after tracked action)

def IsOut (m : Moment) (id : Nat) : Prop :=
  ∃ server ∈ m.service.everyone, server.id = id ∧ server.active = false

theorem isOut_iff {id : Nat} : m.IsOut id ↔ (id, false) ∈ m.service.badges := by
  unfold IsOut badges
  rw [List.mem_map]
  simp only [Server.badge, Prod.mk.injEq]

theorem badge_unique (tracked : m.Tracked) {badge badge' : Nat × Bool}
    (member : badge ∈ m.service.badges) (member' : badge' ∈ m.service.badges)
    (same : badge.1 = badge'.1) : badge = badge' :=
  List.inj_on_of_nodup_map (nodup_badges tracked) member member' same

-- Nothing but a static error takes a server out, and then its reactivation is pending.
theorem leaves_of_turn (tracked : m.Tracked) (turn : m.Turn action badges pending) {id : Nat}
    (before : (id, true) ∈ m.service.badges) (out : (id, false) ∈ badges) :
    ∃ profile entry micros p, action = .release profile entry true micros false ∧
      m.service.profile? profile = some p ∧
      ⟨m.clock + p.failTimeout.nanoseconds, id⟩ ∈ pending := by
  have not_out : (id, false) ∉ m.service.badges := by
    intro already
    cases badge_unique tracked before already rfl
  cases turn with
  | same => exact absurd out not_out
  | join profiles specs count badges perm =>
    rcases List.mem_append.mp (perm.mem_iff.mp out) with old | new
    · exact absurd old not_out
    · obtain ⟨_, _, same⟩ := List.mem_map.mp new
      cases same
  | leave profile entry micros p i other configured found =>
    rcases mem_set_of_nodup (nodup_badges tracked) found out with same | ⟨old, _⟩
    · cases same
      exact ⟨profile, entry, micros, p, rfl, configured,
        List.mem_append_right _ (List.mem_singleton_self _)⟩
    · exact absurd old not_out
  | wake nanoseconds =>
    obtain ⟨⟨other, active⟩, old, same⟩ := List.mem_map.mp out
    obtain ⟨rfl, inactive⟩ := Prod.mk.inj same
    rw [Bool.or_eq_false_iff] at inactive
    rw [inactive.1] at old
    exact absurd old not_out

-- Whether the clock reaches the instant on the way.
def Reaches (m : Moment) (due : Instant) (actions : List Action) : Prop :=
  ∃ past nanoseconds, past ++ [.pass nanoseconds] <+: actions ∧
    due ≤ (m.run past).clock + nanoseconds

theorem clock_le_after (m : Moment) (action : Action) : m.clock ≤ (m.after action).clock := by
  cases action with
  | acquire => exact Nat.le_refl _
  | release => exact Nat.le_refl _
  | update profiles specs =>
    unfold after
    dsimp only
    split <;> exact Nat.le_refl _
  | enable => exact Nat.le_refl _
  | pass nanoseconds => exact Nat.le_add_right ..

theorem clock_le_run (m : Moment) (actions : List Action) : m.clock ≤ (m.run actions).clock := by
  induction actions generalizing m with
  | nil => exact Nat.le_refl _
  | cons action actions ih => exact Nat.le_trans (clock_le_after m action) (ih _)

theorem le_clock_of_reaches {due : Instant} {actions : List Action}
    (reaches : m.Reaches due actions) : due ≤ (m.run actions).clock := by
  obtain ⟨past, nanoseconds, ⟨rest, rfl⟩, late⟩ := reaches
  have later := clock_le_run ((m.run past).after (.pass nanoseconds)) rest
  simp only [run, List.foldl_append, List.foldl_cons, List.foldl_nil] at later late ⊢
  exact Nat.le_trans late later

theorem waits_of_turn (turn : m.Turn action badges pending) {r : Reactivation}
    (waits : r ∈ m.service.pending)
    (early : ∀ nanoseconds, action = .pass nanoseconds → m.clock + nanoseconds < r.due) :
    r ∈ pending := by
  cases turn with
  | same => exact waits
  | join => exact waits
  | leave => exact List.mem_append_left _ waits
  | wake nanoseconds =>
    refine List.mem_filter.mpr ⟨waits, ?_⟩
    simp only [isDue, Bool.not_eq_true', decide_eq_false_iff_not]
    exact Nat.not_le_of_lt (early nanoseconds rfl)

theorem waits_run {r : Reactivation} (waits : r ∈ m.service.pending) {actions : List Action}
    (early : ¬m.Reaches r.due actions) : r ∈ (m.run actions).service.pending := by
  induction actions generalizing m with
  | nil => exact waits
  | cons action actions ih =>
    refine ih (waits_of_turn (turn_after m action) waits ?_) ?_
    · rintro nanoseconds rfl
      apply Nat.lt_of_not_le
      intro late
      exact early ⟨[], nanoseconds, by simp, late⟩
    · rintro ⟨past, nanoseconds, first, late⟩
      exact early ⟨action :: past, nanoseconds, (List.prefix_cons_inj action).mpr first, late⟩

theorem not_handed_of_out (tracked : m.Tracked) {id : Nat} (out : (id, false) ∈ m.service.badges)
    {entry : Entry} {server : Server} (handed : m.Hands entry server) : server.id ≠ id := by
  intro same
  have may := mayServe_of_hands handed
  have listed : server.badge ∈ m.service.badges :=
    List.mem_map_of_mem (List.mem_append_left _ (List.mem_of_getElem? may.found))
  have unique := badge_unique tracked listed out same
  have inactive := congrArg Prod.snd unique
  exact absurd (may.active.symm.trans inactive) Bool.noConfusion

theorem back_of_pass (tracked : m.Tracked) {r : Reactivation} (waits : r ∈ m.service.pending)
    {nanoseconds : Nat} (late : r.due ≤ m.clock + nanoseconds) :
    ∃ server ∈ (m.after (.pass nanoseconds)).service.everyone,
      server.id = r.server ∧ server.active = true ∧ server.fails = 0 := by
  have known := tracked.known r waits
  rw [← map_id_everyone] at known
  obtain ⟨server, member, same⟩ := List.mem_map.mp known
  have due : r.server ∈ m.service.dueIds (m.clock + nanoseconds) :=
    List.mem_map_of_mem (List.mem_filter.mpr ⟨waits, decide_eq_true late⟩)
  refine ⟨server.activate, ?_, same, rfl, rfl⟩
  show server.activate ∈ (m.service.wake (m.clock + nanoseconds)).everyone
  rw [everyone_wake]
  refine List.mem_map.mpr ⟨server, member, if_pos ?_⟩
  rw [same]
  exact List.contains_iff_mem.mpr due

theorem ids_run {id : Nat} (known : id ∈ m.service.ids) (actions : List Action) :
    id ∈ (m.run actions).service.ids := by
  induction actions generalizing m with
  | nil => exact known
  | cons action actions ih =>
    apply ih
    rw [← map_fst_badges]
    exact mem_fst_of_turn (turn_after m action) known

theorem in_of_not_out {id : Nat} (known : id ∈ m.service.ids) (not_out : ¬m.IsOut id) :
    (id, true) ∈ m.service.badges := by
  rw [← map_fst_badges] at known
  obtain ⟨⟨_, active⟩, member, rfl⟩ := List.mem_map.mp known
  cases active with
  | true => exact member
  | false => exact absurd (isOut_iff.mpr member) not_out

theorem not_out_of_in (tracked : m.Tracked) {id : Nat} (inside : (id, true) ∈ m.service.badges) :
    ¬m.IsOut id := by
  intro out
  cases badge_unique tracked inside (isOut_iff.mp out) rfl

-- A server that is in at first and out in the end was taken out by a static error in between.
theorem taken_out_of_run (tracked : m.Tracked) {id : Nat}
    (inside : (id, true) ∈ m.service.badges) {later : List Action} (out : (m.run later).IsOut id) :
    ∃ past profile entry micros rest,
      later = past ++ .release profile entry true micros false :: rest ∧
      ¬(m.run past).IsOut id ∧
      ((m.run past).after (.release profile entry true micros false)).IsOut id := by
  induction later generalizing m with
  | nil => exact absurd out (not_out_of_in tracked inside)
  | cons action later ih =>
    by_cases first : (m.after action).IsOut id
    · obtain ⟨profile, entry, micros, p, rfl, _⟩ :=
        leaves_of_turn tracked (turn_after m action) inside (isOut_iff.mp first)
      exact ⟨[], profile, entry, micros, later, rfl, not_out_of_in tracked inside, first⟩
    · have known := ids_run (mem_ids_of_badge inside) [action]
      obtain ⟨past, profile, entry, micros, rest, rfl, before, after⟩ :=
        ih (tracked_after tracked action) (in_of_not_out known first) out
      exact ⟨action :: past, profile, entry, micros, rest, rfl, before, after⟩

-- What is pending belongs to servers that are out.
theorem isOut_of_waiting (tracked : m.Tracked) {r : Reactivation}
    (waits : r ∈ m.service.pending) : m.IsOut r.server := by
  apply Classical.byContradiction
  intro not_out
  have inside := in_of_not_out (tracked.known r waits) not_out
  have count := tracked.count _ inside
  rw [if_pos rfl, List.countP_eq_zero] at count
  exact count r waits (beq_self_eq_true r.server)

theorem badge_of_active {server : Server} (member : server ∈ m.service.everyone)
    (active : server.active = true) : (server.id, true) ∈ m.service.badges := by
  rw [← active]
  exact List.mem_map_of_mem member

theorem rotation_of_servers (name : String) (datacenter : Option String) (allowRemote : Bool)
    (windows : Windows) (clock : Instant) (actions : List Action) :
    let m := (create name datacenter allowRemote windows clock).run actions
    ∀ server ∈ m.service.everyone,
      (∀ later, ∃ same ∈ (m.run later).service.everyone, same.id = server.id) ∧
      m.service.pending.countP (·.server == server.id) = (if server.active then 0 else 1) ∧
      (server.active = true → ∀ action, (m.after action).IsOut server.id →
        ∃ profile entry micros p, action = .release profile entry true micros false ∧
          m.service.profile? profile = some p ∧
          let due := m.clock + p.failTimeout.nanoseconds
          ∀ later, ¬(m.after action).Reaches due later →
            let now := (m.after action).run later
            now.IsOut server.id ∧
            (∀ entry other, now.Hands entry other → other.id ≠ server.id) ∧
            ∀ nanoseconds, due ≤ now.clock + nanoseconds →
              ∃ back ∈ (now.after (.pass nanoseconds)).service.everyone,
                back.id = server.id ∧ back.active = true ∧ back.fails = 0) ∧
      (server.active = true → ∀ later, (m.run later).IsOut server.id →
        ∃ past profile entry micros rest,
          later = past ++ .release profile entry true micros false :: rest ∧
          ¬(m.run past).IsOut server.id ∧
          ((m.run past).after (.release profile entry true micros false)).IsOut server.id) := by
  intro m server member
  have tracked : m.Tracked := tracked_run (tracked_create ..) actions
  have badge : server.badge ∈ m.service.badges := List.mem_map_of_mem member
  refine ⟨?_, tracked.count _ badge, ?_, ?_⟩
  · intro later
    have known := ids_run (mem_ids_of_badge badge) later
    rw [← map_id_everyone] at known
    exact List.mem_map.mp known
  · intro active action out
    have inside := badge_of_active member active
    obtain ⟨profile, entry, micros, p, same, configured, waits⟩ :=
      leaves_of_turn tracked (turn_after m action) inside (isOut_iff.mp out)
    refine ⟨profile, entry, micros, p, same, configured, fun later early => ?_⟩
    have tracked := tracked_run (tracked_after tracked action) later
    have waits := waits_run waits early
    have still : ((m.after action).run later).IsOut server.id := isOut_of_waiting tracked waits
    refine ⟨still, fun entry other handed => ?_, fun nanoseconds late => ?_⟩
    · exact not_handed_of_out tracked (isOut_iff.mp still) handed
    · exact back_of_pass tracked waits late
  · intro active later out
    exact taken_out_of_run tracked (badge_of_active member active) out

theorem server_out_for_ten_seconds :
    let m := (create "shop" none false {} 0).run [.update .empty [{ address := "a:80" }]]
    let entry : Entry := ⟨0, "a:80", ⟨"http", "a:80"⟩, none, none⟩
    let out := m.after (.release "default" entry true 0 false)
    let later := out.run [.pass 9999999999]
    ∃ server ∈ m.service.everyone, server.active = true ∧ out.IsOut server.id ∧
      (∀ entry other, later.Hands entry other → other.id ≠ server.id) ∧
      ∃ back ∈ (later.after (.pass 1)).service.everyone,
        back.id = server.id ∧ back.active = true ∧ back.fails = 0 := by
  intro m entry out later
  have before : m.service.badges = [(0, true)] ∧ m.clock = 0 ∧
      (m.service.profile? "default").map (·.failTimeout.nanoseconds) = some 10000000000 := by
    decide +kernel +revert
  have after : out.service.badges = [(0, false)] ∧ later.clock = 9999999999 := by
    decide +kernel +revert
  have listed : (0, true) ∈ m.service.badges := by
    rw [before.1]
    exact List.mem_singleton_self _
  obtain ⟨server, member, badge⟩ := List.mem_map.mp listed
  obtain ⟨id, active⟩ := Prod.mk.inj badge
  have gone : out.IsOut server.id := by
    rw [isOut_iff, after.1, id]
    exact List.mem_singleton_self _
  obtain ⟨_, _, leaves, _⟩ := rotation_of_servers "shop" none false {} 0
    [.update .empty [{ address := "a:80" }]] server member
  obtain ⟨profile, entry', micros, p, same, configured, stays⟩ := leaves active _ gone
  cases same
  rw [configured] at before
  have timeout : p.failTimeout.nanoseconds = 10000000000 := Option.some.inj before.2.2
  have early : ¬out.Reaches (m.clock + p.failTimeout.nanoseconds) [.pass 9999999999] := by
    intro reaches
    have late : m.clock + p.failTimeout.nanoseconds ≤ later.clock := le_clock_of_reaches reaches
    rw [before.2.1, timeout, after.2] at late
    exact absurd late (by decide)
  obtain ⟨_, not_handed, returns⟩ := stays _ early
  refine ⟨server, member, active, gone, not_handed, returns 1 ?_⟩
  show m.clock + p.failTimeout.nanoseconds ≤ later.clock + 1
  rw [before.2.1, timeout, after.2]

end Moment

end Balancing
