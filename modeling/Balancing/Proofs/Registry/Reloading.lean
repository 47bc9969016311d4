import Balancing.Proofs.Config.Faults
import Balancing.Proofs.Registry.Renewal
import Balancing.Proofs.Service.Moment

namespace Balancing

theorem Server.build_of_sound {spec : ServerSpec} (sound : spec.Sound) {windows : Windows}
    (errors : windows.errors ≠ 0) (latencies : windows.latencies ≠ 0) (id : Nat)
    (slowStart : Option SlowStart) : ∃ s, build id spec windows slowStart = .ok s := by
  obtain ⟨endpoint, parsed⟩ := Option.isSome_iff_exists.mp sound.parsed
  have percent : ¬100 < if slowStart.isSome then slowStartLivePercent else 100 := by
    split <;> decide
  simp only [build, parsed, ErrorWindow.withLivePercent, LatencyWindow.empty, errors, latencies,
    percent, dite_false, if_false]
  exact ⟨_, rfl⟩

-- What a descriptor says of its server.
def Server.features (s : Server) : String × UInt32 × Option String × Option String :=
  (s.address, s.weight, s.rack, s.datacenter)

def ServerSpec.features (spec : ServerSpec) : String × UInt32 × Option String × Option String :=
  (spec.address, spec.weight, spec.rack, spec.datacenter.map Text.lowercase)

theorem Server.features_of_isOf {s : Server} {spec : ServerSpec} (fits : s.isOf spec = true)
    (sound : spec.Sound) : s.features = spec.features := by
  simp only [isOf, Bool.and_eq_true, decide_eq_true_eq, atLeastOne, if_neg sound.weighs] at fits
  obtain ⟨⟨⟨address, weight⟩, rack⟩, datacenter⟩ := fits
  simp only [features, ServerSpec.features, address, weight, rack, datacenter]

theorem Server.map_features {servers : List Server} {specs : List ServerSpec}
    (fit : List.Forall₂ (fun s spec => s.isOf spec = true) servers specs)
    (sound : ∀ spec ∈ specs, spec.Sound) :
    servers.map features = specs.map ServerSpec.features := by
  induction fit with
  | nil => rfl
  | cons first _ ih =>
    obtain ⟨head, rest⟩ := List.forall_mem_cons.mp sound
    rw [List.map_cons, List.map_cons, features_of_isOf first head, ih rest]

namespace Service

-- A service as an entry of the file describes it.
structure Shows (s : Service) (entry : ServiceEntry) : Prop where
  servers : s.servers.map Server.features = entry.servers.map ServerSpec.features
  -- a service always has a default profile, the standard one if the file gives none
  profiles : ∀ name, s.profiles.get? name = (entry.profiles.get? name).or
    (if name = Profile.defaultName then some .standard else none)
  enabled : s.enabled = entry.enabled

theorem get?_withDefault (profiles : Profiles) (name : String) :
    (withDefault profiles).get? name = (profiles.get? name).or
      (if name = Profile.defaultName then some .standard else none) := by
  unfold withDefault SortedMap.contains
  by_cases same : name = Profile.defaultName
  · subst same
    cases given : profiles.get? Profile.defaultName <;> simp [given]
  · split <;> simp [same]

theorem update_of_sound {s : Service} (errors : s.windows.errors ≠ 0)
    (latencies : s.windows.latencies ≠ 0) {specs : List ServerSpec}
    (sound : ∀ spec ∈ specs, spec.Sound) (now : Instant) (profiles : Profiles) :
    ∃ s', s.update now profiles specs = .ok s' ∧
      s'.servers.map Server.features = specs.map ServerSpec.features ∧
      s'.profiles = withDefault profiles := by
  rw [update_eq]
  cases made : roster s.windows (s.slowStart? now (defaultOf profiles)) s.servers s.nextId
      specs with
  | error e =>
    obtain ⟨before, bad, after, id, rfl, unbuilt⟩ := roster_error made
    have listed : bad ∈ before ++ bad :: after := List.mem_append_right before List.mem_cons_self
    obtain ⟨server, built⟩ := Server.build_of_sound (sound bad listed) errors latencies id
      (s.slowStart? now (defaultOf profiles))
    rw [built] at unbuilt
    cases unbuilt
  | ok r => exact ⟨_, rfl, Server.map_features (roster_isOf made) sound, rfl⟩

end Service

theorem Moment.windows_after (m : Moment) (action : Action) :
    (m.after action).service.windows = m.service.windows := by
  cases action with
  | acquire excluded =>
    have shell := Service.shell_acquire m.service m.clock excluded
    exact (congrArg Service.windows shell :)
  | release profile entry isError micros adaptive =>
    have shell := Service.shell_release m.service m.clock profile entry isError micros adaptive
    exact (congrArg Service.windows shell :)
  | update profiles specs =>
    unfold after
    dsimp only
    split
    · rename_i service updated
      obtain ⟨r, slowStart, made, rfl⟩ := Service.update_ok updated
      rfl
    · rfl
  | enable enabled => rfl
  | pass nanoseconds =>
    exact (congrArg Service.windows (Service.shell_wake m.service (m.clock + nanoseconds)) :)

-- The registry and the file that it is kept to.
structure Upkeep where
  files : FileDirectory
  registry : Registry

namespace Upkeep

inductive Event where
  | reload (configs : List ConfigFile)
  | refresh (names : List String)
  | use (name : String) (action : Action)
  | elapse (nanoseconds : Nat)

def begin (settings : Settings) (first : ConfigFile) : Upkeep :=
  ⟨.create first, .create settings⟩

def after (u : Upkeep) : Event → Upkeep
  | .reload configs =>
    let (files, registry, _) := u.registry.reload u.files configs
    ⟨files, registry⟩
  | .refresh names => { u with registry := (u.registry.update u.files.directory names).registry }
  | .use name action =>
    match u.registry.services.get? name with
    | some s =>
      let used := (Moment.after ⟨s, u.registry.clock, []⟩ action).service
      { u with registry := u.registry.setService name used }
    | none => u
  | .elapse nanoseconds => { u with registry := u.registry.elapse nanoseconds }

def run (u : Upkeep) (events : List Event) : Upkeep := events.foldl after u

-- What is told to monitoring when one file is reloaded.
def reports (u : Upkeep) (config : ConfigFile) : List Report :=
  (u.registry.reload u.files [config]).2.2

-- The names that a reload brings up to date, those of the registry and those of the file.
def touched (u : Upkeep) (config : ConfigFile) : List String :=
  Registry.mergeNames u.registry.names (u.files.replace config).names

variable {u : Upkeep}

-- Files that are fed together are taken one after the other.
theorem after_reload_append (u : Upkeep) (configs later : List ConfigFile) :
    u.after (.reload (configs ++ later)) = (u.after (.reload configs)).after (.reload later) := by
  induction configs generalizing u with
  | nil => rfl
  | cons config configs ih => exact ih (u.after (.reload [config]))

theorem after_reload (u : Upkeep) (config : ConfigFile) :
    u.after (.reload [config]) = ⟨u.files.replace config,
      (u.registry.updateAll (u.files.replace config).directory (u.touched config)).1⟩ := rfl

theorem reports_eq (u : Upkeep) (config : ConfigFile) :
    u.reports config
      = (u.registry.updateAll (u.files.replace config).directory (u.touched config)).2.filterMap
          (Registry.refusalReport u.registry.settings) :=
  List.append_nil _

-- No service of a registry has windows of its own.
def Standard (r : Registry) : Prop :=
  ∀ name s, r.services.get? name = some s → s.windows = {}

theorem windows_serviceFor {r : Registry} (standard : Standard r) (name : String) :
    (r.serviceFor name).windows = {} := by
  unfold Registry.serviceFor
  cases found : r.services.get? name with
  | none => rfl
  | some s => exact standard name s found

theorem windows_renewed {r : Registry} (standard : Standard r) {d : Directory} {name : String}
    {s : Service} (renewal : r.renewed d name = .ok (some s)) : s.windows = {} := by
  unfold Registry.renewed at renewal
  split at renewal
  · cases renewal
  · split at renewal
    · cases renewal
    · split at renewal
      · cases renewal
      · rename_i updated
        cases renewal
        obtain ⟨r', slowStart, made, rfl⟩ := Service.update_ok updated
        exact windows_serviceFor standard name

theorem standard_updateAll {r : Registry} (standard : Standard r) (d : Directory)
    (names : List String) : Standard (r.updateAll d names).1 :=
  Registry.all_updateAll standard (fun _ _ standard _ _ => windows_renewed standard) names

theorem standard_reload (standard : Standard u.registry) (configs : List ConfigFile) :
    Standard (u.after (.reload configs)).registry := by
  induction configs generalizing u with
  | nil => exact standard
  | cons config configs ih =>
    exact ih (u := u.after (.reload [config])) (standard_updateAll standard _ _)

theorem standard_after (standard : Standard u.registry) (event : Event) :
    Standard (u.after event).registry := by
  cases event with
  | reload configs => exact standard_reload standard configs
  | refresh names => exact standard_updateAll standard _ _
  | use name action =>
    unfold after
    dsimp only
    cases found : u.registry.services.get? name with
    | none => exact standard
    | some s =>
      have used : ∀ s', some (Moment.after ⟨s, u.registry.clock, []⟩ action).service = some s' →
          s'.windows = {} := by
        rintro s' ⟨rfl⟩
        rw [Moment.windows_after]
        exact standard name s found
      exact Registry.all_enter standard used
  | elapse nanoseconds =>
    intro name s there
    obtain ⟨old, found, rfl⟩ : ∃ old, u.registry.services.get? name = some old ∧
        old.wake (u.registry.clock + nanoseconds) = s := by
      simpa [after, Registry.elapse, Registry.wake] using there
    rw [Service.wake_eq]
    exact standard name old found

theorem standard_run (standard : Standard u.registry) (events : List Event) :
    Standard (u.run events).registry := by
  induction events generalizing u with
  | nil => exact standard
  | cons event events ih => exact ih (standard_after standard event)

theorem standard_begin (settings : Settings) (first : ConfigFile) :
    Standard (begin settings first).registry := by
  intro name s there
  cases there

theorem mem_touched {config : ConfigFile} {name : String} : name ∈ u.touched config ↔
    (u.registry.services.get? name).isSome ∨ (config.services.get? name).isSome := by
  unfold touched Registry.mergeNames
  rw [SortedMap.mem_keys_ofList, ← SortedMap.mem_keys_iff, ← SortedMap.mem_keys_iff]
  simp [Registry.names, FileDirectory.names, FileDirectory.replace]

theorem nodup_touched (u : Upkeep) (config : ConfigFile) : (u.touched config).Nodup :=
  SortedMap.nodup_keys _

variable {config : ConfigFile} {name : String}

theorem renewed_of_absent (absent : config.services.get? name = none) :
    u.registry.renewed (u.files.replace config).directory name = .ok none := by
  simp [Registry.renewed, FileDirectory.directory, FileDirectory.replace, absent]

-- An entry without faults leaves only the checks to refuse it.
theorem renewed_of_sound (standard : Standard u.registry) {entry : ServiceEntry}
    (listed : config.services.get? name = some entry)
    (sound : ∀ spec ∈ entry.servers, spec.Sound) :
    (∃ e, u.registry.renewed (u.files.replace config).directory name = .error e ∧
      e.isRefusal = true) ∨
    ∃ s, u.registry.renewed (u.files.replace config).directory name = .ok (some s) ∧
      s.Shows entry := by
  let d := (u.files.replace config).directory
  have servers : d.servers name = entry.servers := by
    simp [d, FileDirectory.directory, FileDirectory.replace, listed]
  have profiles : d.profiles name = some entry.profiles := by
    simp [d, FileDirectory.directory, FileDirectory.replace, listed]
  have enabled : d.enabled name = entry.enabled := by
    simp [d, FileDirectory.directory, FileDirectory.replace, listed]
  show (∃ e, u.registry.renewed d name = .error e ∧ _) ∨
    ∃ s, u.registry.renewed d name = .ok (some s) ∧ _
  unfold Registry.renewed
  rw [profiles, Option.isNone_some, Bool.false_and, if_neg Bool.false_ne_true]
  cases checked : Registry.check u.registry.settings name (u.registry.known d name)
      (d.servers name) with
  | error e => exact .inl ⟨e, rfl, (Registry.fault_of_check checked).2⟩
  | ok =>
    have windows := windows_serviceFor standard name
    obtain ⟨s, updated, features, given⟩ := Service.update_of_sound
      (s := u.registry.serviceFor name) (by rw [windows]; decide) (by rw [windows]; decide) sound
      u.registry.clock entry.profiles
    rw [servers]
    dsimp only [Option.getD_some]
    rw [updated]
    refine .inr ⟨_, rfl, features, fun profile => ?_, enabled⟩
    show s.profiles.get? profile = _
    rw [given, Service.get?_withDefault]

-- The reports name just the services whose update was refused.
theorem reported_iff (u : Upkeep) (config : ConfigFile) (name : String) :
    (∃ dc, Report.updateIgnored name dc ∈ u.reports config) ↔
      ∃ e, u.registry.renewed (u.files.replace config).directory name = .error e ∧
        e.isRefusal = true := by
  rw [reports_eq]
  simp only [List.mem_filterMap, Registry.mem_errors_updateAll (nodup_touched u config)]
  constructor
  · rintro ⟨dc, e, ⟨other, _, failed⟩, told⟩
    cases Registry.fault_of_failed failed with
    | degraded =>
      cases told
      exact ⟨_, failed, rfl⟩
    | noLocal =>
      cases told
      exact ⟨_, failed, rfl⟩
    | server => cases told
  · rintro ⟨e, failed, refused⟩
    have listed : name ∈ u.touched config := by
      rw [mem_touched]
      cases absent : config.services.get? name with
      | some entry => exact .inr rfl
      | none =>
        rw [renewed_of_absent absent] at failed
        cases failed
    have fault := Registry.fault_of_failed failed
    cases fault with
    | degraded => exact ⟨_, _, ⟨name, listed, failed⟩, rfl⟩
    | noLocal => exact ⟨_, _, ⟨name, listed, failed⟩, rfl⟩
    | server => cases refused

theorem get?_reload (u : Upkeep) (config : ConfigFile) (name : String) :
    (u.after (.reload [config])).registry.services.get? name
      = match u.registry.renewed (u.files.replace config).directory name with
        | .ok found => found
        | .error _ => u.registry.services.get? name := by
  rw [after_reload]
  by_cases listed : name ∈ u.touched config
  · exact Registry.get?_updateAll (nodup_touched u config) listed
  · have kept := Registry.get?_updateAll_of_not_mem (r := u.registry)
      (d := (u.files.replace config).directory) listed
    obtain ⟨unregistered, absent⟩ := not_or.mp (mt mem_touched.mpr listed)
    rw [Option.not_isSome_iff_eq_none] at unregistered absent
    rw [renewed_of_absent absent]
    exact kept.trans unregistered

theorem reload_converges (settings : Settings) (first : ConfigFile) (events : List Event)
    (configs : List ConfigFile) (config : ConfigFile) (accepted : config.faults = []) :
    let start := (begin settings first).run events
    let before := start.after (.reload configs)
    let after := start.after (.reload (configs ++ [config]))
    let Refused (name : String) := ∃ dc, Report.updateIgnored name dc ∈ before.reports config
    (∀ name, config.services.get? name = none → after.registry.services.get? name = none) ∧
    (∀ name entry, config.services.get? name = some entry →
      (¬Refused name → ∃ s, after.registry.services.get? name = some s ∧ s.Shows entry) ∧
      (Refused name →
        after.registry.services.get? name = before.registry.services.get? name)) ∧
    ∀ e ∈ (before.registry.updateAll after.files.directory (before.touched config)).2,
      e.isRefusal = true := by
  intro start before after Refused
  have standard : Standard before.registry :=
    standard_reload (standard_run (standard_begin settings first) events) configs
  have last : after = before.after (.reload [config]) :=
    after_reload_append start configs [config]
  rw [last]
  refine ⟨fun name absent => ?_, fun name entry listed => ⟨fun passed => ?_, ?_⟩, ?_⟩
  · rw [get?_reload, renewed_of_absent absent]
  · rcases renewed_of_sound standard listed (config.sound_of_accepted accepted listed) with
      refused | ⟨s, renewal, shows⟩
    · exact absurd ((reported_iff before config name).mpr refused) passed
    · refine ⟨s, ?_, shows⟩
      rw [get?_reload, renewal]
  · intro refused
    obtain ⟨e, failed, _⟩ := (reported_iff before config name).mp refused
    rw [get?_reload, failed]
  · intro e member
    obtain ⟨name, _, failed⟩ : ∃ name ∈ before.touched config,
        before.registry.renewed (before.files.replace config).directory name = .error e :=
      (Registry.mem_errors_updateAll (nodup_touched before config)).mp member
    cases listed : config.services.get? name with
    | none =>
      rw [renewed_of_absent listed] at failed
      cases failed
    | some entry =>
      rcases renewed_of_sound standard listed (config.sound_of_accepted accepted listed) with
        ⟨e', failed', refused⟩ | ⟨s, renewal, _⟩
      · cases failed.symm.trans failed'
        exact refused
      · cases failed.symm.trans renewal

-- One service goes, one comes, and one keeps its four servers because the file leaves it only one.
theorem shop_kept_depot_entered_mill_gone :
    let served (addresses : List String) : ServiceEntry :=
      { servers := addresses.map fun address => { address } }
    let four := served ["a:80", "b:80", "c:80", "d:80"]
    let first : ConfigFile := { services := .ofList [("shop", four), ("mill", served ["m:80"])] }
    let depot : ServiceEntry :=
      { enabled := false, servers := [{ address := "https://e:443", datacenter := some "DC2" }] }
    let config : ConfigFile := { services := .ofList [("shop", served ["a:80"]), ("depot", depot)] }
    let events : List Event := [.refresh ["mill", "shop"], .use "shop" (.acquire [])]
    let found (configs : List ConfigFile) (name : String) : Option Service :=
      (((begin {} first).run events).after (.reload configs)).registry.services.get? name
    config.faults = [] ∧
    (((begin {} first).run events).after (.reload [first])).reports config
      = [.updateIgnored "shop" none] ∧
    (found [first] "mill").isSome ∧ found ([first] ++ [config]) "mill" = none ∧
    (found [first] "shop").map (·.servers.map (·.requests)) = some [1, 0, 0, 0] ∧
    found ([first] ++ [config]) "shop" = found [first] "shop" ∧
    ∃ s, found ([first] ++ [config]) "depot" = some s ∧ s.Shows depot := by
  intro served four first depot config events found
  have facts : config.faults = [] ∧
      (((begin {} first).run events).after (.reload [first])).reports config
        = [.updateIgnored "shop" none] ∧
      (found [first] "mill").isSome ∧
      (found [first] "shop").map (·.servers.map (·.requests)) = some [1, 0, 0, 0] ∧
      config.services.get? "mill" = none ∧ config.services.get? "shop" = some (served ["a:80"]) ∧
      config.services.get? "depot" = some depot := by
    decide +kernel +revert
  obtain ⟨accepted, told, registered, counted, noMill, shop, depotListed⟩ := facts
  obtain ⟨gone, listed, _⟩ := reload_converges {} first events [first] config accepted
  refine ⟨accepted, told, registered, gone "mill" noMill, counted,
    (listed "shop" _ shop).2 ?_, (listed "depot" depot depotListed).1 ?_⟩
  · rw [told]
    exact ⟨none, List.mem_singleton_self _⟩
  · rw [told]
    simp

end Upkeep

end Balancing
