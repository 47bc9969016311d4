import Balancing.Proofs.Service.Tally

namespace Balancing

-- The errors since the last success or reactivation.
def streak (log : List Mark) : Nat := (log.reverse.takeWhile (· = .error)).length

theorem streak_concat (log : List Mark) (mark : Option Mark) :
    streak (log ++ mark.toList) = match mark with
      | none => streak log
      | some .error => streak log + 1
      | some .success | some .back => 0 := by
  cases mark with
  | none => rw [Option.toList_none, List.append_nil]
  | some mark =>
    unfold streak
    rw [Option.toList_some, List.reverse_append, List.reverse_singleton, List.singleton_append]
    cases mark <;> simp

namespace Moment

open Service

def meetAll (m : Moment) (incidents : List Incident) : Moment := incidents.foldl meet m

-- All that happens to the server of an identity.
def log (m : Moment) (id : Nat) : List Incident → List Mark
  | [] => []
  | incident :: incidents => (m.mark? id incident).toList ++ (m.meet incident).log id incidents

variable {m : Moment}

-- The counts are those of the errors in a row, also where nobody is yet.
structure Counted (m : Moment) (log : Nat → List Mark) : Prop where
  numbered : m.service.Numbered
  fails : ∀ t ∈ m.service.tallies, t.fails.toNat = streak (log t.id) % 2 ^ 32
  unknown : ∀ id, m.service.nextId ≤ id → streak (log id) = 0

theorem counted_create (name : String) (datacenter : Option String) (allowRemote : Bool)
    (windows : Windows) (clock : Instant) :
    (create name datacenter allowRemote windows clock).Counted fun _ => [] where
  numbered := numbered_create ..
  fails _ member := absurd member List.not_mem_nil
  unknown _ _ := rfl

theorem toNat_next {t : Tally} {log : List Mark} {limit : Option UInt32}
    (counted : t.fails.toNat = streak log % 2 ^ 32) (mark : Option Mark) :
    (t.next limit mark).fails.toNat = streak (log ++ mark.toList) % 2 ^ 32 := by
  rw [streak_concat]
  rcases mark with _ | _ | _ | _
  · exact counted
  · show (t.fails + 1).toNat = _
    rw [UInt32.toNat_add, counted]
    exact Nat.mod_add_mod ..
  · rfl
  · rfl

-- For servers that are not there yet there is nothing to count.
theorem streak_of_new {log : Nat → List Mark} (counted : m.Counted log) {id : Nat}
    (new : m.service.nextId ≤ id) (incident : Incident) :
    streak (log id ++ (m.mark? id incident).toList) = 0 := by
  have unheard := ne_error_of_unknown counted.numbered new incident
  rw [streak_concat]
  cases mark : m.mark? id incident with
  | none => exact counted.unknown id new
  | some marked =>
    rw [mark] at unheard
    cases marked with
    | error => exact absurd rfl unheard
    | success => rfl
    | back => rfl

theorem counted_meet {log : Nat → List Mark} (counted : m.Counted log) (incident : Incident) :
    (m.meet incident).Counted fun id => log id ++ (m.mark? id incident).toList := by
  obtain ⟨count, perm, next⟩ := tallies_meet counted.numbered incident
  refine ⟨numbered_meet counted.numbered incident, fun t member => ?_, fun id new => ?_⟩
  · rcases List.mem_append.mp (perm.mem_iff.mp member) with old | new
    · obtain ⟨before, listed, rfl⟩ := List.mem_map.mp old
      have key : (m.next incident before).id = before.id := Tally.id_next ..
      rw [key]
      exact toNat_next (counted.fails before listed) _
    · obtain ⟨id, number, rfl⟩ := List.mem_map.mp new
      show (0 : UInt32).toNat = streak (log id ++ (m.mark? id incident).toList) % 2 ^ 32
      rw [streak_of_new counted (List.mem_range'_1.mp number).1]
      rfl
  · exact streak_of_new counted (by omega) incident

theorem counted_meetAll {log : Nat → List Mark} (counted : m.Counted log)
    (incidents : List Incident) :
    (m.meetAll incidents).Counted fun id => log id ++ m.log id incidents := by
  induction incidents generalizing m log with
  | nil =>
    simp only [Moment.log, List.append_nil]
    exact counted
  | cons incident incidents ih =>
    have later := ih (counted_meet counted incident)
    simp only [List.append_assoc] at later
    exact later

-- Every static release of a run that finds a profile goes by this limit.
def Under (most : UInt32) (m : Moment) : List Incident → Prop
  | [] => True
  | incident :: incidents =>
    (m.limit? incident = none ∨ m.limit? incident = some most) ∧
      (m.meet incident).Under most incidents

instance decidableUnder (most : UInt32) (m : Moment) :
    (incidents : List Incident) → Decidable (m.Under most incidents)
  | [] => inferInstanceAs (Decidable True)
  | incident :: incidents =>
    let _ := decidableUnder most (m.meet incident) incidents
    inferInstanceAs (Decidable (_ ∧ _))

-- A service with servers has been updated, and then it has a default profile.
def Configured (s : Service) : Prop := s.servers ≠ [] → ∀ name, (s.profile? name).isSome = true

theorem Configured.of_used {s s' : Service} (configured : Configured s) (used : s.Used s') :
    Configured s' := by
  intro servers name
  have profile : s'.profile? name = s.profile? name :=
    (congrArg (Service.profile? · name) used.shell :)
  rw [profile]
  refine configured (fun empty => servers ?_) name
  rw [← List.length_eq_zero_iff, used.length, empty, List.length_nil]

theorem profile_of_reached {s : Service} (configured : Configured s) {entry : Entry}
    {server : Server} (reached : s.serverOf? entry = some server) (name : String) :
    ∃ p, s.profile? name = some p := by
  have servers : s.servers ≠ [] :=
    List.ne_nil_of_mem (List.mem_of_getElem? (serverOf?_eq_some_iff.mp reached).1)
  exact Option.isSome_iff_exists.mp (configured servers name)

theorem configured_meet (configured : Configured m.service) (incident : Incident) :
    Configured (m.meet incident).service := by
  cases incident with
  | act action =>
    cases action with
    | acquire excluded => exact configured.of_used (used_acquire ..)
    | release profile entry isError micros adaptive => exact configured.of_used (used_release ..)
    | update profiles specs =>
      show Configured (m.after (.update profiles specs)).service
      unfold after
      dsimp only
      split
      · rename_i service updated
        obtain ⟨r, slowStart, made, rfl⟩ := update_ok updated
        intro _ name
        have default : ((withDefault profiles).get? Profile.defaultName).isSome = true := by
          unfold withDefault
          split
          · assumption
          · simp
        rw [profile?, Option.isSome_or, default, Bool.or_true]
      · exact configured
    | enable enabled => exact configured
    | pass nanoseconds => exact configured.of_used (used_wake ..)
  | reactivate id =>
    exact configured.of_used ⟨rfl, map_reactivate Server.fixed_origin.activate ..⟩
  | tick nanoseconds => exact configured

-- An error that reaches a server goes by some limit.
theorem limit_of_error (configured : Configured m.service) {id : Nat} {incident : Incident}
    (marked : m.mark? id incident = some .error) : m.limit? incident ≠ none := by
  obtain ⟨profile, entry, _, server, rfl, reached, _⟩ := reached_of_error marked
  obtain ⟨p, found⟩ := profile_of_reached configured reached profile
  rw [limit?, found]
  exact Option.some_ne_none _

-- No server in the rotation has reached the limit.
def Below (most : UInt32) (m : Moment) (log : Nat → List Mark) : Prop :=
  ∀ t ∈ m.service.tallies, t.active = true → streak (log t.id) < most.toNat

theorem below_meet {most : UInt32} (pos : 0 < most) {log : Nat → List Mark}
    (counted : m.Counted log) (configured : Configured m.service) (below : m.Below most log)
    {incident : Incident} (under : m.limit? incident = none ∨ m.limit? incident = some most) :
    (m.meet incident).Below most fun id => log id ++ (m.mark? id incident).toList := by
  have pos' : 0 < most.toNat := pos
  obtain ⟨count, perm, _⟩ := tallies_meet counted.numbered incident
  have later := counted_meet counted incident
  intro t member active
  rcases List.mem_append.mp (perm.mem_iff.mp member) with old | new
  · obtain ⟨before, listed, rfl⟩ := List.mem_map.mp old
    have key : (m.next incident before).id = before.id := Tally.id_next ..
    rw [key, streak_concat]
    rw [next] at active
    have exact_count := counted.fails before listed
    cases mark : m.mark? before.id incident with
    | none =>
      rw [mark] at active
      exact below before listed active
    | some marked =>
      rw [mark] at active
      cases marked with
      | success => exact pos'
      | back => exact pos'
      | error =>
        have limited := under.resolve_left (limit_of_error configured mark)
        rw [limited] at active
        simp only [Tally.next, Bool.and_eq_true, Bool.not_eq_true', Tally.reaches,
          Option.any_some, pos, decide_true, Bool.true_and, decide_eq_false_iff_not] at active
        have before_below := below before listed active.1
        have room := most.toNat_lt
        have not_reached := active.2
        rw [UInt32.not_le, UInt32.lt_iff_toNat_lt, UInt32.toNat_add, exact_count] at not_reached
        show streak (log before.id) + 1 < most.toNat
        have one : (1 : UInt32).toNat = 1 := rfl
        omega
  · obtain ⟨id, number, rfl⟩ := List.mem_map.mp new
    show streak (log id ++ (m.mark? id incident).toList) < most.toNat
    rw [streak_of_new counted (List.mem_range'_1.mp number).1]
    exact pos'

theorem below_meetAll {most : UInt32} (pos : 0 < most) {log : Nat → List Mark}
    (counted : m.Counted log) (configured : Configured m.service) (below : m.Below most log)
    {incidents : List Incident} (under : m.Under most incidents) :
    Configured (m.meetAll incidents).service ∧
      (m.meetAll incidents).Below most fun id => log id ++ m.log id incidents := by
  induction incidents generalizing m log with
  | nil =>
    simp only [Moment.log, List.append_nil]
    exact ⟨configured, below⟩
  | cons incident incidents ih =>
    obtain ⟨first, rest⟩ := under
    have later := ih (counted_meet counted incident) (configured_meet configured incident)
      (below_meet pos counted configured below first) rest
    simp only [List.append_assoc] at later
    exact later

theorem isOut_iff_tally {id : Nat} :
    m.IsOut id ↔ ∃ t ∈ m.service.tallies, t.id = id ∧ t.active = false := by
  unfold IsOut tallies
  simp only [List.mem_map, exists_exists_and_eq_and]
  rfl

theorem isOut_release_iff (numbered : m.service.Numbered) {server : Server}
    (known : server ∈ m.service.everyone) (profile : String) (entry : Entry) (isError : Bool)
    (micros : UInt64) (adaptive : Bool) :
    let action := Action.release profile entry isError micros adaptive
    (m.after action).IsOut server.id ↔ (m.next (.act action) server.tally).active = false := by
  intro action
  have tally : server.tally ∈ m.service.tallies := List.mem_map_of_mem known
  have moved : (m.after action).service.tallies = m.service.tallies.map (m.next (.act action)) :=
    tallies_release numbered ..
  rw [isOut_iff_tally, moved]
  constructor
  · rintro ⟨t', member, same, out⟩
    obtain ⟨t, listed, rfl⟩ := List.mem_map.mp member
    have key : (m.next (.act action) t).id = t.id := Tally.id_next ..
    have own : t = server.tally :=
      List.inj_on_of_nodup_map (nodup_tallies numbered) listed tally (key.symm.trans same)
    rwa [← own]
  · intro out
    exact ⟨_, List.mem_map_of_mem tally, Tally.id_next .., out⟩

theorem server_unique (numbered : m.service.Numbered) {server other : Server}
    (known : server ∈ m.service.everyone) (known' : other ∈ m.service.everyone)
    (same : server.id = other.id) : server = other := by
  have nodup : (m.service.everyone.map (·.id)).Nodup := by
    rw [map_id_everyone]
    exact numbered.nodup
  exact List.inj_on_of_nodup_map nodup known known' same

theorem mark_release {server : Server} (numbered : m.service.Numbered)
    (known : server ∈ m.service.everyone) (profile : String) (entry : Entry) (isError : Bool)
    (micros : UInt64) :
    m.mark? server.id (.act (.release profile entry isError micros false))
      = if m.service.serverOf? entry = some server then some (markOf isError) else none := by
  cases reached : m.service.serverOf? entry with
  | none => simp [mark?, reached]
  | some other =>
    have listed := List.mem_of_getElem? (serverOf?_eq_some_iff.mp reached).1
    have same : server.id = other.id ↔ some other = some server := by
      constructor
      · intro same
        rw [server_unique numbered known (List.mem_append_left _ listed) same]
      · rintro ⟨⟩
        rfl
    simp only [mark?, reached, same]

theorem reaches_iff {configured : Option Profile} {fails : UInt32} :
    Tally.reaches (configured.map (·.maxFails)) fails = true ↔
      ∃ p, configured = some p ∧ 0 < p.maxFails ∧ p.maxFails ≤ fails := by
  cases configured <;> simp [Tally.reaches]

theorem leaves_iff (numbered : m.service.Numbered) {server : Server}
    (known : server ∈ m.service.everyone) (active : server.active = true) (profile : String)
    (entry : Entry) (isError : Bool) (micros : UInt64) :
    (m.after (.release profile entry isError micros false)).IsOut server.id ↔
      isError = true ∧ m.service.serverOf? entry = some server ∧
        ∃ p, m.service.profile? profile = some p ∧ 0 < p.maxFails ∧
          p.maxFails ≤ server.fails + 1 := by
  refine (isOut_release_iff numbered known ..).trans ?_
  have key : server.tally.id = server.id := rfl
  rw [next, key, mark_release numbered known]
  by_cases reached : m.service.serverOf? entry = some server
  · rw [if_pos reached]
    cases isError with
    | false =>
      show server.active = false ↔ _
      simp [active]
    | true =>
      show (server.active && !Tally.reaches _ (server.fails + 1)) = false ↔ _
      rw [active, Bool.true_and, Bool.not_eq_false', limit?, reaches_iff]
      simp [reached]
  · rw [if_neg reached]
    show server.active = false ↔ _
    simp [active, reached]

-- Under one limit the error that reaches it is the first one that could.
theorem leaves_at_limit (numbered : m.service.Numbered) (configured : Configured m.service)
    {server : Server} (known : server ∈ m.service.everyone) (active : server.active = true)
    {most : UInt32} (below : server.fails < most) {profile : String}
    (limit : ∀ p, m.service.profile? profile = some p → p.maxFails = most) (entry : Entry)
    (isError : Bool) (micros : UInt64) :
    (m.after (.release profile entry isError micros false)).IsOut server.id ↔
      isError = true ∧ m.service.serverOf? entry = some server ∧
        server.fails.toNat + 1 = most.toNat := by
  rw [leaves_iff numbered known active]
  refine and_congr_right fun _ => and_congr_right fun reached => ?_
  obtain ⟨p, found⟩ := profile_of_reached configured reached profile
  have below' := UInt32.lt_iff_toNat_lt.mp below
  have room := most.toNat_lt
  have next : (server.fails + 1).toNat = server.fails.toNat + 1 := by
    have one : (1 : UInt32).toNat = 1 := rfl
    rw [UInt32.toNat_add, one]
    exact Nat.mod_eq_of_lt (by omega)
  constructor
  · rintro ⟨p, found, _, reaches⟩
    rw [limit p found, UInt32.le_iff_toNat_le, next] at reaches
    omega
  · intro last
    refine ⟨p, found, ?_, ?_⟩
    · rw [limit p found, UInt32.lt_iff_toNat_lt]
      exact Nat.lt_of_le_of_lt (Nat.zero_le _) below'
    · rw [limit p found, UInt32.le_iff_toNat_le, next]
      exact last.ge

theorem errors_in_a_row (name : String) (datacenter : Option String) (allowRemote : Bool)
    (windows : Windows) (clock : Instant) (incidents : List Incident) :
    let start := create name datacenter allowRemote windows clock
    let m := start.meetAll incidents
    let count (id : Nat) := streak (start.log id incidents)
    (∀ server ∈ m.service.everyone, server.fails.toNat = count server.id % 2 ^ 32) ∧
    (∀ profile entry isError micros,
      (m.after (.release profile entry isError micros true)).service.tallies
        = m.service.tallies) ∧
    (∀ server ∈ m.service.everyone, server.active = true → count server.id + 1 < 2 ^ 32 →
      ∀ profile entry isError micros,
        (m.after (.release profile entry isError micros false)).IsOut server.id ↔
          isError = true ∧ m.service.serverOf? entry = some server ∧
            ∃ p, m.service.profile? profile = some p ∧ 0 < p.maxFails ∧
              p.maxFails.toNat ≤ count server.id + 1) ∧
    ∀ most : UInt32, 0 < most → start.Under most incidents →
      ∀ server ∈ m.service.everyone, server.active = true →
        server.fails < most ∧ server.fails.toNat = count server.id ∧
        ∀ profile entry isError micros,
          (∀ p, m.service.profile? profile = some p → p.maxFails = most) →
          ((m.after (.release profile entry isError micros false)).IsOut server.id ↔
            isError = true ∧ m.service.serverOf? entry = some server ∧
              count server.id + 1 = most.toNat) := by
  intro start m count
  have first : start.Counted fun _ => [] := counted_create ..
  have counted : m.Counted fun id => start.log id incidents := counted_meetAll first incidents
  have fails (server : Server) (known : server ∈ m.service.everyone) :
      server.fails.toNat = count server.id % 2 ^ 32 :=
    counted.fails server.tally (List.mem_map_of_mem known)
  refine ⟨fails, fun _ _ _ _ => tallies_release_adaptive .., ?_, ?_⟩
  · intro server known active room profile entry isError micros
    rw [leaves_iff counted.numbered known active]
    have next : (server.fails + 1).toNat = count server.id + 1 := by
      rw [UInt32.toNat_add, fails server known]
      exact (Nat.mod_add_mod ..).trans (Nat.mod_eq_of_lt room)
    simp only [UInt32.le_iff_toNat_le, next]
  · intro most pos under server known active
    obtain ⟨configured, below⟩ := below_meetAll pos first
      (fun some_served => absurd rfl some_served)
      (fun _ member => absurd member List.not_mem_nil) under
    have below : count server.id < most.toNat :=
      below server.tally (List.mem_map_of_mem known) active
    have room := most.toNat_lt
    have same : server.fails.toNat = count server.id := by
      rw [fails server known]
      omega
    have fails_lt : server.fails < most := by
      rw [UInt32.lt_iff_toNat_lt, same]
      exact below
    refine ⟨fails_lt, same, fun profile entry isError micros limit => ?_⟩
    rw [← same]
    exact leaves_at_limit counted.numbered configured known active fails_lt limit ..

-- One error, a success and one error more; the update between them changes nothing for the server.
theorem second_error_in_a_row_takes_out :
    let profiles : Profiles := .ofList [("default", { maxFails := 2 })]
    let a : Entry := ⟨0, "a:80", ⟨"http", "a:80"⟩, none, none⟩
    let incidents : List Incident :=
      [.act (.update profiles [{ address := "a:80" }]), .act (.release "reads" a true 0 false),
        .act (.release "reads" a false 0 false), .act (.release "writes" a true 0 false),
        .act (.update profiles [{ address := "a:80" }, { address := "b:80" }])]
    let start := create "shop" none false {} 0
    let m := start.meetAll incidents
    start.Under 2 incidents ∧ streak (start.log 0 incidents) = 1 ∧
    ∃ server ∈ m.service.everyone, server.id = 0 ∧ server.active = true ∧ server.fails = 1 ∧
      (m.after (.release "reads" a true 0 false)).IsOut server.id := by
  intro profiles a incidents start m
  have facts : start.Under 2 incidents ∧ streak (start.log 0 incidents) = 1 ∧
      m.service.badges = [(0, true), (1, true)] ∧
      (m.service.profile? "reads").map (·.maxFails) = some 2 ∧
      (m.service.serverOf? a).map (·.id) = some 0 := by
    decide +kernel +revert
  obtain ⟨under, errors, badges, limit, place⟩ := facts
  obtain ⟨server, reached, id⟩ := Option.map_eq_some_iff.mp place
  have known : server ∈ m.service.everyone :=
    List.mem_append_left _ (List.mem_of_getElem? (serverOf?_eq_some_iff.mp reached).1)
  have badge : server.badge ∈ m.service.badges := List.mem_map_of_mem known
  have active : server.active = true := by
    simp only [badges, Server.badge, id, List.mem_cons, Prod.mk.injEq, List.not_mem_nil] at badge
    simpa using badge
  obtain ⟨_, _, _, limited⟩ := errors_in_a_row "shop" none false {} 0 incidents
  obtain ⟨below, same, leaves⟩ := limited 2 (by decide) under server known active
  rw [id] at same leaves
  have one : server.fails = 1 := UInt32.toNat_inj.mp (same.trans errors)
  have two (p : Profile) (found : m.service.profile? "reads" = some p) : p.maxFails = 2 := by
    rw [found] at limit
    exact Option.some.inj limit
  refine ⟨under, errors, server, known, id, active, one, ?_⟩
  rw [id]
  exact (leaves "reads" a true 0 two).mpr ⟨rfl, reached, congrArg (· + 1) errors⟩

end Moment

end Balancing
