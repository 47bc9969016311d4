import Balancing.Proofs.Registry.Degradation
import Balancing.Proofs.Registry.Operation
import Balancing.Proofs.Text.Lowercase

namespace Balancing

namespace Registry

variable {r : Registry} {d : Directory} {name : String}

-- The events that remove the name.
def Drops (name : String) (event : Event) : Prop :=
  ∃ d names, event = .update d names ∧ name ∈ names ∧ d.drops name = true

theorem renewed_of_drops (dropped : d.drops name = true) : r.renewed d name = .ok none := by
  rw [Directory.drops] at dropped
  rw [renewed, dropped, if_pos rfl]

theorem get?_updateAll_of_drops (dropped : d.drops name = true) {names : List String}
    (absent_or_listed : r.services.get? name = none ∨ name ∈ names) :
    (r.updateAll d names).1.services.get? name = none := by
  induction names generalizing r with
  | nil => exact absent_or_listed.resolve_right List.not_mem_nil
  | cons first names ih =>
    rw [updateAll_cons]
    by_cases here : first = name
    · subst here
      rw [renewed_of_drops dropped]
      exact ih (.inl (by rw [get?_enter, if_pos rfl]))
    · have later : r.services.get? name = none ∨ name ∈ names :=
        absent_or_listed.imp_right fun listed =>
          (List.mem_cons.mp listed).resolve_left (Ne.symm here)
      cases r.renewed d first with
      | error e => exact ih later
      | ok found =>
        refine ih (later.imp_left fun absent => ?_)
        rw [get?_enter, if_neg (Ne.symm here), absent]

theorem absent_of_drops {event : Event} (drops : Drops name event) :
    (r.after event).services.get? name = none := by
  obtain ⟨d, names, rfl, listed, dropped⟩ := drops
  exact get?_updateAll_of_drops dropped (.inr listed)

-- The name is registered, and its service is so.
def Keeps (P : Service → Prop) (r : Registry) (name : String) : Prop :=
  ∃ s, r.services.get? name = some s ∧ P s

-- What neither use nor an update that succeeds takes from a service.
structure Lasting (settings : Settings) (P : Service → Prop) : Prop where
  used : ∀ {s s' : Service}, s.Used s' → P s → P s'
  renewed : ∀ {r : Registry} {d : Directory} {name : String} {s : Service},
    r.settings = settings → Keeps P r name → r.renewed d name = .ok (some s) → P s

variable {P : Service → Prop}

theorem keeps_enter (lasting : Lasting r.settings P) (keeps : Keeps P r name)
    (asked : d.drops name = false) {other : String} {found : Option Service}
    (renewal : r.renewed d other = .ok found) : Keeps P (r.enter other found) name := by
  unfold Keeps
  rw [get?_enter]
  split
  · rename_i same
    subst same
    cases found with
    | some s => exact ⟨s, rfl, lasting.renewed rfl keeps renewal⟩
    | none =>
      rcases renewed_ok renewal with ⟨dropped, _⟩ | ⟨_, _, s, same, _⟩
      · rw [dropped] at asked
        cases asked
      · cases same
  · exact keeps

theorem keeps_updateAll (lasting : Lasting r.settings P) (keeps : Keeps P r name)
    (asked : d.drops name = false) (names : List String) :
    Keeps P (r.updateAll d names).1 name := by
  induction names generalizing r with
  | nil => exact keeps
  | cons first names ih =>
    rw [updateAll_cons]
    cases renewal : r.renewed d first with
    | error e => exact ih lasting keeps
    | ok found => exact ih (by rwa [settings_enter]) (keeps_enter lasting keeps asked renewal)

theorem Keeps.of_used {r' : Registry} (lasting : Lasting r.settings P) (keeps : Keeps P r name)
    (used : Option.Rel Service.Used (r.services.get? name) (r'.services.get? name)) :
    Keeps P r' name := by
  obtain ⟨s, there, holds⟩ := keeps
  obtain ⟨s', later, used⟩ := rel_some_left used there
  exact ⟨s', later, lasting.used used holds⟩

theorem keeps_after (lasting : Lasting r.settings P) (keeps : Keeps P r name) {event : Event}
    (stays : ¬Drops name event) : Keeps P (r.after event) name := by
  cases event with
  | update d names =>
    by_cases listed : name ∈ names
    · have asked : d.drops name = false := by
        rw [← Bool.not_eq_true]
        exact fun dropped => stays ⟨d, names, rfl, listed, dropped⟩
      exact keeps_updateAll lasting keeps asked names
    · obtain ⟨s, there, holds⟩ := keeps
      exact ⟨s, (get?_updateAll_of_not_mem listed).trans there, holds⟩
  | use other usage => exact keeps.of_used lasting (used_of_use ..)
  | elapse nanoseconds => exact keeps.of_used lasting (used_of_elapse ..)

theorem keeps_run (lasting : Lasting r.settings P) (keeps : Keeps P r name) {events : List Event}
    (stays : ∀ event ∈ events, ¬Drops name event) : Keeps P (r.run events) name := by
  induction events generalizing r with
  | nil => exact keeps
  | cons event events ih =>
    obtain ⟨first, later⟩ := List.forall_mem_cons.mp stays
    exact ih (by rwa [settings_after]) (keeps_after lasting keeps first) later

theorem lasting_registered (settings : Settings) : Lasting settings fun _ => True :=
  ⟨fun _ _ => trivial, fun _ _ _ => trivial⟩

theorem absent_iff_drops (registered : (r.services.get? name).isSome = true) {event : Event} :
    (r.after event).services.get? name = none ↔ Drops name event := by
  obtain ⟨s, there⟩ := Option.isSome_iff_exists.mp registered
  constructor
  · intro absent
    by_contra stays
    obtain ⟨s', later, _⟩ := keeps_after (lasting_registered r.settings) ⟨s, there, trivial⟩ stays
    rw [later] at absent
    cases absent
  · exact absent_of_drops

-- With a share to keep, no list without servers passes once some are known.
theorem lasting_servers {settings : Settings}
    (kept : Binary64.zero.lt (share settings.allowedDegradation) = true) :
    Lasting settings fun s => s.servers ≠ [] where
  used := by
    intro s s' used servers empty
    rw [← List.length_eq_zero_iff, used.length, List.length_eq_zero_iff] at empty
    exact servers empty
  renewed := by
    rintro r d name s rfl ⟨before, there, servers⟩ renewal empty
    rcases renewed_ok renewal with ⟨_, none⟩ | ⟨_, passed, s', same, lists, _⟩
    · cases none
    · cases same
      have none_listed : (d.servers name).length = 0 := by
        rw [← List.length_eq_zero_iff, lists.servers.length_eq] at empty
        exact empty
      have known : 0 < r.known d name := by
        rw [Registry.known, there, knownSize_some, if_neg (mt List.length_eq_zero_iff.mp servers)]
        exact List.length_pos_iff.mpr servers
      have short := (isDegraded_zero_iff _ _).mpr ⟨known, kept⟩
      have not_short := (check_eq_ok_iff.mp passed).1
      rw [none_listed, short] at not_short
      cases not_short

section

variable {specs : List ServerSpec} {dc : String}

theorem hasLocal_iff : hasLocal dc specs = true ↔
    ∃ spec ∈ specs, ∃ there ∈ spec.datacenter, Text.sameAscii there dc = true := by
  unfold hasLocal
  rw [List.any_eq_true]
  refine exists_congr fun spec => and_congr_right fun _ => ?_
  cases spec.datacenter <;> simp

theorem isRemote_iff_of_isOf {server : Server} {spec : ServerSpec}
    (fits : server.isOf spec = true) :
    server.isRemote (some (Text.lowercase dc)) = false ↔
      ∃ there ∈ spec.datacenter, Text.lowercase there = Text.lowercase dc := by
  simp only [Server.isOf, Bool.and_eq_true, decide_eq_true_eq] at fits
  rw [Server.isRemote, fits.2]
  cases spec.datacenter <;> simp

theorem served_iff {servers : List Server}
    (fit : List.Forall₂ (fun server spec => server.isOf spec = true) servers specs) :
    (∃ server ∈ servers, server.isRemote (some (Text.lowercase dc)) = false) ↔
      ∃ spec ∈ specs, ∃ there ∈ spec.datacenter, Text.lowercase there = Text.lowercase dc := by
  induction fit with
  | nil => simp
  | cons first rest ih =>
    simp only [List.mem_cons, exists_eq_or_imp, ih, isRemote_iff_of_isOf first]

theorem served_of_hasLocal {servers : List Server}
    (fit : List.Forall₂ (fun server spec => server.isOf spec = true) servers specs)
    (listed : hasLocal dc specs = true) :
    ∃ server ∈ servers, server.isRemote (some (Text.lowercase dc)) = false := by
  obtain ⟨spec, member, there, given, same⟩ := hasLocal_iff.mp listed
  apply (served_iff fit).mpr
  exact ⟨spec, member, there, given, Text.lowercase_eq_of_sameAscii same⟩

end

-- The service knows its datacenter, and has a server there if the settings ask for one.
structure AtHome (settings : Settings) (s : Service) : Prop where
  datacenter : s.datacenter = settings.datacenter.map Text.lowercase
  served : settings.skipWithoutLocal = true → settings.datacenter.isSome = true →
    ∃ server ∈ s.servers, server.isRemote s.datacenter = false

theorem AtHome.of_used {settings : Settings} {s s' : Service} (home : AtHome settings s)
    (used : s.Used s') : AtHome settings s' := by
  have datacenter : s'.datacenter = s.datacenter := (congrArg Service.datacenter used.shell :)
  refine ⟨datacenter.trans home.datacenter, fun asked here => ?_⟩
  obtain ⟨server, listed, near⟩ := home.served asked here
  have origin : server.origin ∈ s'.servers.map Server.origin :=
    used.origins ▸ List.mem_map_of_mem listed
  obtain ⟨server', listed', same⟩ := List.mem_map.mp origin
  refine ⟨server', listed', ?_⟩
  have there : server'.datacenter = server.datacenter := congrArg Origin.datacenter same
  simpa only [Server.isRemote, there, datacenter] using near

theorem datacenter_serviceFor (all : All (AtHome r.settings) r) :
    (r.serviceFor name).datacenter = r.settings.datacenter.map Text.lowercase := by
  rw [serviceFor]
  cases there : r.services.get? name with
  | none => rfl
  | some found => exact (all name found there).datacenter

theorem atHome_renewed (all : All (AtHome r.settings) r) {s : Service}
    (renewal : r.renewed d name = .ok (some s)) : AtHome r.settings s := by
  rcases renewed_ok renewal with ⟨_, none⟩ | ⟨_, passed, s', same, lists, datacenter⟩
  · cases none
  · cases same
    have datacenter : s.datacenter = r.settings.datacenter.map Text.lowercase :=
      datacenter.trans (datacenter_serviceFor all)
    refine ⟨datacenter, fun asked here => ?_⟩
    obtain ⟨dc, here⟩ := Option.isSome_iff_exists.mp here
    rw [datacenter, here]
    exact served_of_hasLocal lists.servers ((check_eq_ok_iff.mp passed).2 dc asked here)

theorem atHome_after (all : All (AtHome r.settings) r) (event : Event) :
    All (AtHome r.settings) (r.after event) := by
  cases event with
  | update d names =>
    refine all_updateAll all (fun r' settings all name s renewal => ?_) names
    rw [← settings] at all ⊢
    exact atHome_renewed all renewal
  | use other usage =>
    exact all_of_used all (fun _ _ used home => home.of_used used)
      (used_of_use r other usage)
  | elapse nanoseconds =>
    exact all_of_used all (fun _ _ used home => home.of_used used) (used_of_elapse r nanoseconds)

theorem atHome_run (all : All (AtHome r.settings) r) (events : List Event) :
    All (AtHome r.settings) (r.run events) := by
  induction events generalizing r with
  | nil => exact all
  | cons event events ih =>
    have first := atHome_after all event
    rw [← settings_after r event] at first ⊢
    exact ih first

-- The setting may be any number of 64 bits below one, also a negative or infinite one.
theorem never_without_servers (settings : Settings)
    (format : settings.allowedDegradation.InFormat)
    (below : settings.allowedDegradation.lt .one = true) (events : List Event) :
    let r := (create settings).run events
    (∀ name later, (∃ s, r.services.get? name = some s ∧ s.servers ≠ []) →
      (∀ event ∈ later, ¬Drops name event) →
      ∃ s, (r.run later).services.get? name = some s ∧ s.servers ≠ []) ∧
    (∀ name event, (r.services.get? name).isSome = true →
      ((r.after event).services.get? name = none ↔ Drops name event)) ∧
    (settings.skipWithoutLocal = true → settings.datacenter.isSome = true →
      ∀ name s, r.services.get? name = some s →
        ∃ server ∈ s.servers, server.isRemote s.datacenter = false) := by
  intro r
  have same : r.settings = (create settings).settings := settings_run ..
  have kept : Binary64.zero.lt (share r.settings.allowedDegradation) = true := by
    rw [same]
    exact share_pos format below
  refine ⟨fun name later holds stays => keeps_run (lasting_servers kept) holds stays,
    fun name event registered => absent_iff_drops registered, ?_⟩
  intro asked here name s there
  have start : All (AtHome (create settings).settings) (create settings) := by
    intro name s found
    cases found
  exact (atHome_run start events name s there).served asked here

-- The service is kept as it was while the directory lists it without local servers, and then
-- without any.
theorem shop_keeps_local_server :
    let listing (servers : List (String × String)) : Directory := .ofListings (.ofList [("shop",
      { servers := servers.map fun (address, dc) => { address, datacenter := some dc } })])
    let settings : Settings := { datacenter := some "DC1", skipWithoutLocal := true }
    let events : List Event :=
      [.update (listing [("a:80", "dc1"), ("b:80", "DC2")]) ["shop"], .use "shop" (.acquire [])]
    let later : List Event :=
      [.update (listing [("b:80", "DC2")]) ["shop"], .update (listing []) ["shop"], .elapse 1]
    let r := (create settings).run events
    settings.allowedDegradation.InFormat ∧ settings.allowedDegradation.lt .one = true ∧
    (∃ s, r.services.get? "shop" = some s ∧ s.servers ≠ []) ∧
    (∀ event ∈ later, ¬Drops "shop" event) ∧
    (∃ s, (r.run later).services.get? "shop" = some s ∧ s.servers ≠ []) ∧
    ∀ s, r.services.get? "shop" = some s →
      ∃ server ∈ s.servers, server.isRemote s.datacenter = false := by
  intro listing settings events later r
  have served : (r.services.get? "shop").map (·.servers.length) = some 2 := by
    decide +kernel +revert
  have format : settings.allowedDegradation.InFormat :=
    Binary64.inFormat_ofRatio false 1 Nat.two_pos
  have below : settings.allowedDegradation.lt .one = true := by decide
  have holds : ∃ s, r.services.get? "shop" = some s ∧ s.servers ≠ [] := by
    obtain ⟨s, there, length⟩ := Option.map_eq_some_iff.mp served
    refine ⟨s, there, fun empty => ?_⟩
    rw [empty] at length
    cases length
  have stays : ∀ event ∈ later, ¬Drops "shop" event := by
    rintro event member ⟨d, names, rfl, _, dropped⟩
    simp only [later, List.mem_cons, Event.update.injEq, reduceCtorEq, List.not_mem_nil,
      or_false] at member
    rcases member with ⟨rfl, _⟩ | ⟨rfl, _⟩ <;> cases dropped
  obtain ⟨kept, _, home⟩ := never_without_servers settings format below events
  exact ⟨format, below, holds, stays, kept "shop" later holds stays, home rfl rfl "shop"⟩

end Registry

end Balancing
