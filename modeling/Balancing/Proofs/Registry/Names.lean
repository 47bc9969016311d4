import Balancing.Proofs.Service.Roster
import Balancing.Registry

namespace Balancing

namespace Service

variable {windows : Windows} {slowStart : Option SlowStart} {free : List Server} {nextId : Nat}
  {specs : List ServerSpec}

theorem roster_cons_of_taken {spec : ServerSpec} {s : Server} {rest : List Server}
    (taken : takeFirst (·.isOf spec) free = some (s, rest)) :
    roster windows slowStart free nextId (spec :: specs)
      = (roster windows slowStart rest nextId specs).map
          fun r => { r with servers := s :: r.servers } := by
  rw [roster, taken]
  rfl

theorem roster_cons_of_new {spec : ServerSpec} (new : takeFirst (·.isOf spec) free = none) :
    roster windows slowStart free nextId (spec :: specs)
      = (Server.build nextId spec windows slowStart).bind fun s =>
          (roster windows slowStart free (nextId + 1) specs).map
            fun r => { r with servers := s :: r.servers } := by
  rw [roster, new]
  rfl

-- The error is that of a descriptor of the list.
theorem roster_error {e : ServerError}
    (failed : roster windows slowStart free nextId specs = .error e) :
    ∃ before bad after id, specs = before ++ bad :: after ∧
      Server.build id bad windows slowStart = .error e := by
  induction specs generalizing free nextId with
  | nil => cases failed
  | cons spec specs ih =>
    cases found : takeFirst (·.isOf spec) free with
    | some taken =>
      obtain ⟨s, rest⟩ := taken
      rw [roster_cons_of_taken found] at failed
      cases later : roster windows slowStart rest nextId specs with
      | ok r => simp [later, Except.map] at failed
      | error e' =>
        simp only [later, Except.map, Except.error.injEq] at failed
        obtain ⟨before, bad, after, id, rfl, built⟩ := ih (later.trans (congrArg _ failed))
        exact ⟨spec :: before, bad, after, id, rfl, built⟩
    | none =>
      rw [roster_cons_of_new found] at failed
      cases built : Server.build nextId spec windows slowStart with
      | error e' =>
        simp only [built, Except.bind, Except.error.injEq] at failed
        exact ⟨[], spec, specs, nextId, rfl, built.trans (congrArg _ failed)⟩
      | ok s =>
        cases later : roster windows slowStart free (nextId + 1) specs with
        | ok r => simp [built, later, Except.bind, Except.map] at failed
        | error e' =>
          simp only [built, later, Except.bind, Except.map, Except.error.injEq] at failed
          obtain ⟨before, bad, after, id, rfl, built⟩ := ih (later.trans (congrArg _ failed))
          exact ⟨spec :: before, bad, after, id, rfl, built⟩

-- Wherever a descriptor stands that nothing fits and nothing can be built from.
theorem roster_of_bad {bad : ServerSpec} {r : Roster} (listed : bad ∈ specs)
    (unmet : ∀ s ∈ free, s.isOf bad = false)
    (unbuilt : ∀ id s, Server.build id bad windows slowStart ≠ .ok s) :
    roster windows slowStart free nextId specs ≠ .ok r := by
  induction specs generalizing free nextId r with
  | nil => cases listed
  | cons spec specs ih =>
    intro made
    rcases roster_cons made with ⟨s, rest, r', taken, later, -⟩ | ⟨s, r', built, later, -⟩
    · obtain ⟨fits, perm⟩ := takeFirst_spec taken
      rcases List.mem_cons.mp listed with rfl | listed
      · have misfit := unmet s (perm.mem_iff.mpr List.mem_cons_self)
        rw [misfit] at fits
        cases fits
      · refine ih listed (fun t member => ?_) later
        exact unmet t (perm.mem_iff.mpr (List.mem_cons_of_mem s member))
    · rcases List.mem_cons.mp listed with rfl | listed
      · exact unbuilt nextId s built
      · exact ih listed unmet later

-- The default profile that a service goes by once the given ones are its own.
def defaultOf (profiles : Profiles) : Profile :=
  ((withDefault profiles).get? Profile.defaultName).getD .standard

-- An update fails only over its servers.
theorem update_eq (s : Service) (now : Instant) (profiles : Profiles) (specs : List ServerSpec) :
    s.update now profiles specs
      = (roster s.windows (s.slowStart? now (defaultOf profiles)) s.servers s.nextId specs).map
          fun r => { s with
            profiles := withDefault profiles
            servers := r.servers
            retired := s.retired ++ r.left
            nextId := r.nextId } := rfl

end Service

theorem Server.build_of_unparsed {spec : ServerSpec}
    (unparsed : Endpoint.parse? spec.address = none) (id : Nat) (windows : Windows)
    (slowStart : Option SlowStart) :
    build id spec windows slowStart = .error (.invalidAddress spec.address) := by
  simp only [build, unparsed]

namespace Registry

-- The service that the update of a name works on: the registered one, or a new one.
def serviceFor (r : Registry) (name : String) : Service :=
  (r.services.get? name).getD (.create name r.settings.datacenter r.settings.allowCrossDc)

def known (r : Registry) (d : Directory) (name : String) : Nat :=
  knownSize (r.services.get? name) (d.initialSize name)

-- What a name stands for after its update: a service, or nothing.
def renewed (r : Registry) (d : Directory) (name : String) :
    Except UpdateError (Option Service) :=
  if (d.profiles name).isNone && (d.servers name).isEmpty then .ok none
  else
    match check r.settings name (r.known d name) (d.servers name) with
    | .error e => .error e
    | .ok () =>
      match (r.serviceFor name).update r.clock ((d.profiles name).getD .empty) (d.servers name) with
      | .error e => .error (.server name e)
      | .ok updated => .ok (some { updated with enabled := d.enabled name })

def enter (r : Registry) (name : String) : Option Service → Registry
  | none => { r with services := r.services.erase name }
  | some s => r.setService name s

variable {r : Registry} {d : Directory} {name : String}

theorem updateOne_eq (r : Registry) (d : Directory) (name : String) :
    r.updateOne d name = (r.renewed d name).map (r.enter name) := by
  unfold updateOne renewed known serviceFor
  dsimp only
  cases (d.profiles name).isNone && (d.servers name).isEmpty with
  | true => rfl
  | false =>
    cases check r.settings name (knownSize (r.services.get? name) (d.initialSize name))
        (d.servers name) with
    | error e => rfl
    | ok =>
      cases ((r.services.get? name).getD
          (.create name r.settings.datacenter r.settings.allowCrossDc)).update r.clock
          ((d.profiles name).getD .empty) (d.servers name) with
      | error e => rfl
      | ok updated => rfl

theorem updateOne_error_iff {e : UpdateError} :
    r.updateOne d name = .error e ↔ r.renewed d name = .error e := by
  rw [updateOne_eq]
  cases r.renewed d name <;> simp [Except.map]

@[simp] theorem settings_enter (r : Registry) (name : String) (found : Option Service) :
    (r.enter name found).settings = r.settings := by
  cases found <;> rfl

@[simp] theorem clock_enter (r : Registry) (name : String) (found : Option Service) :
    (r.enter name found).clock = r.clock := by
  cases found <;> rfl

@[simp] theorem get?_enter (r : Registry) (name : String) (found : Option Service)
    (other : String) : (r.enter name found).services.get? other
      = if other = name then found else r.services.get? other := by
  cases found <;> simp [enter, setService]

-- Nothing else of the registry has a say in it.
theorem renewed_congr {r r' : Registry} (settings : r'.settings = r.settings)
    (clock : r'.clock = r.clock) (same : r'.services.get? name = r.services.get? name) :
    r'.renewed d name = r.renewed d name := by
  simp only [renewed, known, serviceFor, settings, clock, same]

theorem renewed_enter_of_ne {other : String} (ne : other ≠ name) (found : Option Service) :
    (r.enter name found).renewed d other = r.renewed d other :=
  renewed_congr (by simp) (by simp) (by simp [ne])

theorem updateAll_cons (r : Registry) (d : Directory) (name : String) (names : List String) :
    r.updateAll d (name :: names) = match r.renewed d name with
      | .ok found => (r.enter name found).updateAll d names
      | .error e => ((r.updateAll d names).1, e :: (r.updateAll d names).2) := by
  rw [updateAll, updateOne_eq]
  cases r.renewed d name <;> rfl

-- Every service of the registry.
def All (P : Service → Prop) (r : Registry) : Prop :=
  ∀ name s, r.services.get? name = some s → P s

theorem all_enter {P : Service → Prop} (all : All P r) {found : Option Service}
    (new : ∀ s, found = some s → P s) : All P (r.enter name found) := by
  intro other s there
  rw [get?_enter] at there
  split at there
  · exact new s there
  · exact all other s there

-- What every update of one name brings about is so after the update of many.
theorem all_updateAll {P : Service → Prop} (all : All P r)
    (step : ∀ r' : Registry, r'.settings = r.settings → All P r' →
      ∀ name s, r'.renewed d name = .ok (some s) → P s) (names : List String) :
    All P (r.updateAll d names).1 := by
  induction names generalizing r with
  | nil => exact all
  | cons name names ih =>
    rw [updateAll_cons]
    cases renewal : r.renewed d name with
    | error e => exact ih all step
    | ok found =>
      have entered : All P (r.enter name found) := by
        refine all_enter all fun s same => ?_
        subst same
        exact step r rfl all name s renewal
      exact ih entered fun r' settings => step r' (settings.trans (settings_enter ..))

theorem get?_updateAll_of_not_mem {names : List String} (absent : name ∉ names) :
    (r.updateAll d names).1.services.get? name = r.services.get? name := by
  induction names generalizing r with
  | nil => rfl
  | cons first names ih =>
    obtain ⟨ne, absent⟩ := List.ne_and_not_mem_of_not_mem_cons absent
    rw [updateAll_cons]
    cases renewal : r.renewed d first with
    | ok found => simp [ih absent, ne]
    | error e => exact ih absent

-- Also a name that is listed more than once fails every time.
theorem get?_updateAll_of_error {e : UpdateError} (failed : r.renewed d name = .error e)
    (names : List String) :
    (r.updateAll d names).1.services.get? name = r.services.get? name := by
  induction names generalizing r with
  | nil => rfl
  | cons first names ih =>
    rw [updateAll_cons]
    cases renewal : r.renewed d first with
    | error e => exact ih failed
    | ok found =>
      have ne : name ≠ first := by
        rintro rfl
        rw [failed] at renewal
        cases renewal
      have still : (r.enter first found).renewed d name = .error e := by
        rw [renewed_enter_of_ne ne, failed]
      simp [ih still, ne]

theorem updateAll_of_all_failed {names : List String}
    (failed : ∀ name ∈ names, ∃ e, r.renewed d name = .error e) : (r.updateAll d names).1 = r := by
  induction names with
  | nil => rfl
  | cons first names ih =>
    obtain ⟨e, refused⟩ := failed first List.mem_cons_self
    rw [updateAll_cons, refused]
    exact ih fun name member => failed name (List.mem_cons_of_mem first member)

theorem get?_updateAll {names : List String} (nodup : names.Nodup) (listed : name ∈ names) :
    (r.updateAll d names).1.services.get? name = match r.renewed d name with
      | .ok found => found
      | .error _ => r.services.get? name := by
  cases renewal : r.renewed d name with
  | error e => exact get?_updateAll_of_error renewal names
  | ok found =>
    induction names generalizing r with
    | nil => cases listed
    | cons first names ih =>
      obtain ⟨once, nodup⟩ := List.nodup_cons.mp nodup
      rw [updateAll_cons]
      rcases List.mem_cons.mp listed with rfl | listed
      · simp [renewal, get?_updateAll_of_not_mem once]
      · have ne : name ≠ first := fun same => once (same ▸ listed)
        cases other : r.renewed d first with
        | error e => exact ih nodup listed renewal
        | ok entry =>
          refine ih nodup listed ?_
          rw [renewed_enter_of_ne ne, renewal]

-- The error of a name alone, if its update fails.
def failure? (r : Registry) (d : Directory) (name : String) : Option UpdateError :=
  match r.renewed d name with
  | .ok _ => none
  | .error e => some e

theorem failure?_eq_some_iff {e : UpdateError} :
    r.failure? d name = some e ↔ r.renewed d name = .error e := by
  unfold failure?
  cases r.renewed d name <;> simp

theorem errors_updateAll {names : List String} (nodup : names.Nodup) :
    (r.updateAll d names).2 = names.filterMap (r.failure? d) := by
  induction names generalizing r with
  | nil => rfl
  | cons first names ih =>
    obtain ⟨once, nodup⟩ := List.nodup_cons.mp nodup
    rw [updateAll_cons]
    cases renewal : r.renewed d first with
    | error e =>
      rw [List.filterMap_cons_some (failure?_eq_some_iff.mpr renewal)]
      exact congrArg (e :: ·) (ih nodup)
    | ok found =>
      have silent : r.failure? d first = none := by
        unfold failure?
        rw [renewal]
      rw [List.filterMap_cons_none silent]
      refine (ih nodup).trans (List.filterMap_congr fun name listed => ?_)
      have ne : name ≠ first := fun same => once (same ▸ listed)
      unfold failure?
      rw [renewed_enter_of_ne ne]

theorem mem_errors_updateAll {names : List String} (nodup : names.Nodup) {e : UpdateError} :
    e ∈ (r.updateAll d names).2 ↔ ∃ name ∈ names, r.renewed d name = .error e := by
  simp only [errors_updateAll nodup, List.mem_filterMap, failure?_eq_some_iff]

end Registry

end Balancing
