import Balancing.Proofs.Registry.Renewal

namespace Balancing.Registry

-- Whether the update of the name is turned down for safety.
def refuses (r : Registry) (d : Directory) (name : String) : Bool :=
  match r.updateOne d name with
  | .error e => e.isRefusal
  | .ok _ => false

-- The caller hears of a wrong server always, of a refusal if the settings ask for it.
def Reported (settings : Settings) (e : UpdateError) : Prop :=
  e.isRefusal = false ∨ settings.failOnIgnored = true

variable {r : Registry} {d : Directory} {name : String} {names : List String}

theorem settings_updateAll (r : Registry) (d : Directory) (names : List String) :
    (r.updateAll d names).1.settings = r.settings := by
  induction names generalizing r with
  | nil => rfl
  | cons name names ih =>
    rw [updateAll_cons]
    cases r.renewed d name with
    | ok found => exact (ih _).trans (settings_enter ..)
    | error e => exact ih r

theorem clock_updateAll (r : Registry) (d : Directory) (names : List String) :
    (r.updateAll d names).1.clock = r.clock := by
  induction names generalizing r with
  | nil => rfl
  | cons name names ih =>
    rw [updateAll_cons]
    cases r.renewed d name with
    | ok found => exact (ih _).trans (clock_enter ..)
    | error e => exact ih r

theorem ext_services {r r' : Registry} (settings : r.settings = r'.settings)
    (clock : r.clock = r'.clock)
    (services : ∀ name, r.services.get? name = r'.services.get? name) : r = r' := by
  obtain ⟨settings₁, services₁, clock₁⟩ := r
  obtain ⟨settings₂, services₂, clock₂⟩ := r'
  obtain rfl : settings₁ = settings₂ := settings
  obtain rfl : clock₁ = clock₂ := clock
  obtain rfl : services₁ = services₂ := SortedMap.ext_get? services
  rfl

theorem get?_updateAll_alone (nodup : names.Nodup) (listed : name ∈ names) :
    (r.updateAll d names).1.services.get? name
      = (r.updateAll d [name]).1.services.get? name := by
  rw [get?_updateAll nodup listed,
    get?_updateAll (List.pairwise_singleton _ name) (List.mem_singleton_self name)]

theorem updateAll_perm (nodup : names.Nodup) {names' : List String} (perm : names'.Perm names) :
    (r.updateAll d names').1 = (r.updateAll d names).1 := by
  refine ext_services ?_ ?_ fun name => ?_
  · rw [settings_updateAll, settings_updateAll]
  · rw [clock_updateAll, clock_updateAll]
  · by_cases listed : name ∈ names
    · rw [get?_updateAll nodup listed,
        get?_updateAll (perm.nodup_iff.mpr nodup) (perm.mem_iff.mpr listed)]
    · rw [get?_updateAll_of_not_mem listed,
        get?_updateAll_of_not_mem (mt perm.mem_iff.mp listed)]

theorem refuses_eq (r : Registry) (d : Directory) (name : String) :
    r.refuses d name = (r.failure? d name).any (·.isRefusal) := by
  unfold refuses failure?
  rw [updateOne_eq]
  cases r.renewed d name <;> rfl

-- A refusal is told to monitoring under its name, a wrong server is not.
theorem refusalReport_of_failed {e : UpdateError} (failed : r.renewed d name = .error e) :
    refusalReport r.settings e
      = if e.isRefusal then some (.updateIgnored name r.settings.datacenter) else none := by
  cases fault_of_failed failed with
  | degraded => rfl
  | noLocal asked here absent =>
    rw [here]
    rfl
  | server => rfl

theorem reports_update (nodup : names.Nodup) :
    (r.update d names).reports
      = (names.filter (r.refuses d)).map (.updateIgnored · r.settings.datacenter) := by
  show (r.updateAll d names).2.filterMap (refusalReport r.settings) = _
  rw [errors_updateAll nodup, List.filterMap_filterMap, ← List.filterMap_eq_map,
    List.filterMap_filter]
  refine List.filterMap_congr fun name _ => ?_
  rw [refuses_eq]
  cases failure : r.failure? d name with
  | none => rfl
  | some e =>
    rw [Option.bind_some, refusalReport_of_failed (failure?_eq_some_iff.mp failure)]
    rfl

-- Whether the caller may hear of the name.
def reports (r : Registry) (d : Directory) (name : String) : Bool :=
  (r.failure? d name).any fun e => !e.isRefusal || r.settings.failOnIgnored

theorem reports_iff :
    r.reports d name = true ↔ ∃ e, r.updateOne d name = .error e ∧ Reported r.settings e := by
  rw [reports, Option.any_eq_true]
  refine exists_congr fun e => ?_
  rw [failure?_eq_some_iff, updateOne_error_iff, Reported, Bool.or_eq_true, Bool.not_eq_true']

theorem not_reports_iff : (!r.reports d name) = true ↔
    ∀ e, r.updateOne d name = .error e → ¬Reported r.settings e := by
  rw [Bool.not_eq_true', ← Bool.not_eq_true, reports_iff]
  simp only [not_exists, not_and]

theorem error_update_eq (nodup : names.Nodup) :
    (r.update d names).error = (names.find? (r.reports d)).bind (r.failure? d) := by
  show firstReported r.settings (r.updateAll d names).2 = _
  rw [firstReported, errors_updateAll nodup, List.find?_filterMap]
  rfl

theorem error_update_eq_none_iff (nodup : names.Nodup) :
    (r.update d names).error = none ↔
      ∀ name ∈ names, ∀ e, r.updateOne d name = .error e → ¬Reported r.settings e := by
  rw [error_update_eq nodup, Option.bind_eq_none_iff]
  constructor
  · intro silent name listed e failed reported
    have told := reports_iff.mpr ⟨e, failed, reported⟩
    cases first : names.find? (r.reports d) with
    | none => exact List.find?_eq_none.mp first name listed told
    | some name' =>
      obtain ⟨e', failed', _⟩ := reports_iff.mp (List.find?_some first)
      have quiet := silent name' first
      rw [failure?_eq_some_iff.mpr (updateOne_error_iff.mp failed')] at quiet
      cases quiet
  · intro silent name first
    obtain ⟨e, failed, reported⟩ := reports_iff.mp (List.find?_some first)
    exact absurd reported (silent name (List.mem_of_find?_eq_some first) e failed)

theorem error_update_eq_some_iff (nodup : names.Nodup) {e : UpdateError} :
    (r.update d names).error = some e ↔ ∃ before name after, names = before ++ name :: after ∧
      r.updateOne d name = .error e ∧ Reported r.settings e ∧
      ∀ earlier ∈ before, ∀ e', r.updateOne d earlier = .error e' → ¬Reported r.settings e' := by
  rw [error_update_eq nodup, Option.bind_eq_some_iff]
  constructor
  · rintro ⟨name, first, failure⟩
    obtain ⟨told, before, after, split, quiet⟩ := List.find?_eq_some_iff_append.mp first
    have failed := updateOne_error_iff.mpr (failure?_eq_some_iff.mp failure)
    obtain ⟨e', failed', reported⟩ := reports_iff.mp told
    cases failed.symm.trans failed'
    refine ⟨before, name, after, split, failed, reported, fun earlier listed => ?_⟩
    exact not_reports_iff.mp (quiet earlier listed)
  · rintro ⟨before, name, after, split, failed, reported, quiet⟩
    refine ⟨name, List.find?_eq_some_iff_append.mpr ⟨?_, before, after, split, ?_⟩, ?_⟩
    · exact reports_iff.mpr ⟨e, failed, reported⟩
    · exact fun earlier listed => not_reports_iff.mpr (quiet earlier listed)
    · exact failure?_eq_some_iff.mpr (updateOne_error_iff.mp failed)

theorem names_updated_as_alone (r : Registry) (d : Directory) {names : List String}
    (nodup : names.Nodup) :
    let all := r.update d names
    (∀ name ∈ names, all.registry.services.get? name
      = (r.update d [name]).registry.services.get? name) ∧
    (∀ name, name ∉ names → all.registry.services.get? name = r.services.get? name) ∧
    (∀ names', names'.Perm names → (r.update d names').registry = all.registry) ∧
    all.reports = (names.filter (r.refuses d)).map (.updateIgnored · r.settings.datacenter) ∧
    (all.error = none ↔
      ∀ name ∈ names, ∀ e, r.updateOne d name = .error e → ¬Reported r.settings e) ∧
    ∀ e, all.error = some e ↔ ∃ before name after, names = before ++ name :: after ∧
      r.updateOne d name = .error e ∧ Reported r.settings e ∧
      ∀ earlier ∈ before, ∀ e', r.updateOne d earlier = .error e' → ¬Reported r.settings e' :=
  ⟨fun _ listed => get?_updateAll_alone nodup listed,
    fun _ unlisted => get?_updateAll_of_not_mem unlisted,
    fun _ perm => updateAll_perm nodup perm,
    reports_update nodup, error_update_eq_none_iff nodup,
    fun _ => error_update_eq_some_iff nodup⟩

-- One name is removed, one is refused, one has a wrong server and one is entered.
theorem four_names_backwards :
    let listing (lists : List (String × List String)) : Directory :=
      .ofListings (.ofList (lists.map fun (name, addresses) =>
        (name, { servers := addresses.map fun address => { address } })))
    let r := ((create {}).update (listing [("shop", ["a:80", "b:80", "c:80", "d:80"]),
      ("mill", ["m:80"]), ("barn", ["n:80"])]) ["shop", "mill", "barn"]).registry
    let d := listing [("shop", ["a:80"]), ("depot", ["not an address"]), ("yard", ["y:80"])]
    let names := ["mill", "shop", "depot", "yard"]
    let all := r.update d names
    names.Nodup ∧
    all.registry.names = ["barn", "shop", "yard"] ∧
    all.registry.services.get? "shop" = (r.update d ["shop"]).registry.services.get? "shop" ∧
    all.registry.services.get? "barn" = r.services.get? "barn" ∧
    (r.update d names.reverse).registry = all.registry ∧
    all.reports = [.updateIgnored "shop" none] ∧
    all.error = some (.server "depot" (.invalidAddress "not an address")) := by
  intro listing r d names all
  have lists : names.Nodup ∧ "shop" ∈ names ∧ "barn" ∉ names := by decide +revert
  have facts : all.registry.names = ["barn", "shop", "yard"] ∧
      names.filter (r.refuses d) = ["shop"] ∧ r.settings.datacenter = none ∧
      r.settings.failOnIgnored = false ∧
      (r.updateOne d "mill").isOk = true ∧
      r.updateOne d "shop" = .error (.degraded "shop" 4 1) ∧
      r.updateOne d "depot" = .error (.server "depot" (.invalidAddress "not an address")) := by
    decide +kernel +revert
  obtain ⟨nodup, listed, unlisted⟩ := lists
  obtain ⟨entered, refused, datacenter, lenient, mill, shop, depot⟩ := facts
  obtain ⟨alone, others, perm, told, _, first⟩ := names_updated_as_alone r d nodup
  refine ⟨nodup, entered, alone "shop" listed, others "barn" unlisted,
    perm _ (List.reverse_perm names), ?_,
    (first _).mpr ⟨["mill", "shop"], "depot", ["yard"], rfl, depot, .inl rfl, ?_⟩⟩
  · rw [told, refused, datacenter]
    rfl
  · intro earlier listed e failed
    simp only [List.mem_cons, List.not_mem_nil, or_false] at listed
    rcases listed with rfl | rfl
    · rw [failed] at mill
      cases mill
    · cases shop.symm.trans failed
      simp [Reported, UpdateError.isRefusal, lenient]

end Balancing.Registry
