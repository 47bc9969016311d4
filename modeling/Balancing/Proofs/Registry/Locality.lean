import Balancing.Proofs.Registry.Safety

namespace Balancing

namespace Registry

variable {r : Registry} {d : Directory} {name dc : String} {specs : List ServerSpec}

-- No text outside ASCII has the lower-case form of `dc`, or no letter outside ASCII changes at all.
inductive Comparable (dc : String) (specs : List ServerSpec) : Prop where
  | plain (plain : Text.plain dc = true)
  | settled (here : Text.settled dc = true)
      (elsewhere : ∀ spec ∈ specs, ∀ there ∈ spec.datacenter, Text.settled there = true)

theorem Comparable.sameAscii_iff (comparable : Comparable dc specs) {spec : ServerSpec}
    (listed : spec ∈ specs) {there : String} (given : there ∈ spec.datacenter) :
    Text.sameAscii there dc = true ↔ Text.lowercase there = Text.lowercase dc := by
  cases comparable with
  | plain plain => exact Text.sameAscii_iff_of_plain plain
  | settled here elsewhere =>
    exact Text.sameAscii_iff_of_settled (elsewhere spec listed there given) here

def Reached (r : Registry) : Prop := ∃ settings events, r = (create settings).run events

theorem atHome_of_reached (reached : Reached r) : All (AtHome r.settings) r := by
  obtain ⟨settings, events, rfl⟩ := reached
  rw [settings_run]
  refine atHome_run (fun name s found => ?_) events
  cases found

theorem check_of_required {settings : Settings} {known : Nat}
    (wide : isDegraded settings.allowedDegradation known specs.length = false)
    (required : settings.skipWithoutLocal = true) (here : settings.datacenter = some dc) :
    check settings name known specs =
      if hasLocal dc specs = true then .ok () else .error (.noLocalDatacenter name dc) := by
  rw [check, wide, required, here]
  rfl

-- The update is entered or refused as the test says, whatever the choice would find local.
theorem updateOne_of_built {s : Service} (asked : d.drops name = false)
    (wide : isDegraded r.settings.allowedDegradation (r.known d name) (d.servers name).length
      = false)
    (required : r.settings.skipWithoutLocal = true) (here : r.settings.datacenter = some dc)
    (built : (r.serviceFor name).update r.clock ((d.profiles name).getD .empty) (d.servers name)
      = .ok s) :
    r.updateOne d name = if hasLocal dc (d.servers name) = true then
      .ok (r.setService name { s with enabled := d.enabled name })
      else .error (.noLocalDatacenter name dc) := by
  rw [Directory.drops] at asked
  rw [updateOne_eq, renewed, asked, check_of_required wide required here, built]
  cases hasLocal dc (d.servers name) <;> rfl

-- A service that is new or that a run has left, and any list that its servers can be built from.
theorem local_test_against_choice {s : Service} (reached : Reached r)
    (required : r.settings.skipWithoutLocal = true) (here : r.settings.datacenter = some dc)
    (built : (r.serviceFor name).update r.clock ((d.profiles name).getD .empty) (d.servers name)
      = .ok s) :
    let specs := d.servers name
    let served := ∃ server ∈ s.servers, server.isRemote s.datacenter = false
    (hasLocal dc specs = true → served) ∧
    (served ↔ ∃ spec ∈ specs, ∃ there ∈ spec.datacenter,
      Text.lowercase there = Text.lowercase dc) ∧
    (Comparable dc specs → (hasLocal dc specs = true ↔ served)) ∧
    (d.drops name = false →
      isDegraded r.settings.allowedDegradation (r.known d name) specs.length = false →
      r.updateOne d name = if hasLocal dc specs = true then
        .ok (r.setService name { s with enabled := d.enabled name })
        else .error (.noLocalDatacenter name dc)) := by
  intro specs served
  have datacenter : s.datacenter = some (Text.lowercase dc) := by
    have known : (r.serviceFor name).datacenter = r.settings.datacenter.map Text.lowercase :=
      datacenter_serviceFor (atHome_of_reached reached)
    obtain ⟨_, _, _, rfl⟩ := Service.update_ok built
    rw [here] at known
    exact known
  have fit : List.Forall₂ (fun server spec => server.isOf spec = true) s.servers specs := by
    obtain ⟨_, _, made, rfl⟩ := Service.update_ok built
    exact Service.roster_isOf made
  have listed : served ↔ ∃ spec ∈ specs, ∃ there ∈ spec.datacenter,
      Text.lowercase there = Text.lowercase dc := by
    simp only [served, datacenter]
    exact served_iff fit
  refine ⟨?_, listed, ?_, fun asked wide => updateOne_of_built asked wide required here built⟩
  · simp only [served, datacenter]
    exact served_of_hasLocal fit
  · intro comparable
    rw [hasLocal_iff, listed]
    exact exists_congr fun spec => and_congr_right fun member =>
      exists_congr fun there => and_congr_right fun given => comparable.sameAscii_iff member given

-- Neither the letters that are the same nor those of ASCII in another case stand in the way.
theorem local_list_entered :
    let listing (servers : List (String × String)) : Directory := .ofListings (.ofList [("shop",
      { servers := servers.map fun (address, dc) => { address, datacenter := some dc } })])
    let settings : Settings := { datacenter := some "Zürich-1", skipWithoutLocal := true }
    let r := (create settings).run
      [.update (listing [("a:80", "zürich-1")]) ["shop"], .use "shop" (.acquire [])]
    let d := listing [("b:80", "genève"), ("a:80", "ZüRICH-1")]
    ∃ s, (r.serviceFor "shop").update r.clock ((d.profiles "shop").getD .empty) (d.servers "shop")
        = .ok s ∧
      s.servers.map (·.requests) = [0, 1] ∧
      hasLocal "Zürich-1" (d.servers "shop") = true ∧
      (∃ server ∈ s.servers, server.isRemote s.datacenter = false) ∧
      r.updateOne d "shop" = .ok (r.setService "shop" { s with enabled := d.enabled "shop" }) := by
  intro listing settings r d
  have facts : hasLocal "Zürich-1" (d.servers "shop") = true ∧
      (∀ spec ∈ d.servers "shop", ∀ there ∈ spec.datacenter, Text.settled there = true) ∧
      d.drops "shop" = false ∧
      isDegraded r.settings.allowedDegradation (r.known d "shop") (d.servers "shop").length
        = false ∧
      ((r.serviceFor "shop").update r.clock ((d.profiles "shop").getD .empty)
        (d.servers "shop")).toOption.map (fun s => s.servers.map (·.requests)) = some [0, 1] := by
    decide +kernel +revert
  obtain ⟨listed, settled, asked, wide, requests⟩ := facts
  cases built : (r.serviceFor "shop").update r.clock ((d.profiles "shop").getD .empty)
      (d.servers "shop") with
  | error e =>
    rw [built] at requests
    cases requests
  | ok s =>
    rw [built] at requests
    have same : r.settings = (create settings).settings := settings_run ..
    have required : r.settings.skipWithoutLocal = true := congrArg Settings.skipWithoutLocal same
    have here : r.settings.datacenter = some "Zürich-1" := congrArg Settings.datacenter same
    obtain ⟨_, _, agree, update⟩ :=
      local_test_against_choice ⟨settings, _, rfl⟩ required here built
    have comparable : Comparable "Zürich-1" (d.servers "shop") :=
      .settled (by decide +kernel) settled
    refine ⟨s, rfl, Option.some.inj requests, listed, (agree comparable).mp listed, ?_⟩
    rw [update asked wide, if_pos listed]

-- The same service that the list makes has its only server at home, yet the list is refused.
theorem local_list_refused :
    let settings : Settings := { datacenter := some "ZÜRICH", skipWithoutLocal := true }
    let specs : List ServerSpec := [{ address := "a:80", datacenter := some "zürich" }]
    let d : Directory := .ofListings (.ofList [("shop", { servers := specs })])
    hasLocal "ZÜRICH" specs = false ∧
    check settings "shop" 0 specs = .error (.noLocalDatacenter "shop" "ZÜRICH") ∧
    ((create settings).update d ["shop"]).registry.services.get? "shop" = none ∧
    ∃ s, (Service.create "shop" settings.datacenter settings.allowCrossDc).update 0 .empty specs
        = .ok s ∧ ∃ server ∈ s.servers, server.isRemote s.datacenter = false := by
  intro settings specs d
  have facts : hasLocal "ZÜRICH" specs = false ∧
      check settings "shop" 0 specs = .error (.noLocalDatacenter "shop" "ZÜRICH") ∧
      ((create settings).update d ["shop"]).registry.services.get? "shop" = none ∧
      ((Service.create "shop" settings.datacenter settings.allowCrossDc).update 0 .empty
        specs).toOption.map (fun s => s.servers.any fun server => !server.isRemote s.datacenter)
        = some true := by
    decide +kernel +revert
  obtain ⟨listed, refused, absent, near⟩ := facts
  refine ⟨listed, refused, absent, ?_⟩
  cases built : (Service.create "shop" settings.datacenter settings.allowCrossDc).update 0 .empty
      specs with
  | error e =>
    rw [built] at near
    cases near
  | ok s =>
    rw [built] at near
    obtain ⟨server, member, home⟩ := List.any_eq_true.mp (Option.some.inj near)
    exact ⟨s, rfl, server, member, by simpa using home⟩

end Registry

end Balancing
