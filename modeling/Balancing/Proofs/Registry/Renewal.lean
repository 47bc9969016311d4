import Balancing.Proofs.Registry.Names
import Mathlib.Logic.Function.Iterate

namespace Balancing.Registry

inductive Stage where
  | deciding
  -- servers are taken over or built one after the other, beside the service as it was found
  | gathering (found : Service) (free : List Server) (nextId : Nat) (taken : List Server)
    (specs : List ServerSpec)
  | switching (service : Service)
  | entering (service : Service)
  | ended (outcome : Except UpdateError Unit)

structure Renewal where
  registry : Registry
  stage : Stage

-- What is written to a service shows if the service is registered.
def write (r : Registry) (name : String) (s : Service) : Registry :=
  match r.services.get? name with
  | some _ => r.setService name s
  | none => r

namespace Renewal

def start (r : Registry) : Renewal := ⟨r, .deciding⟩

-- Each step ends with a write at most; no step takes a write back.
def advance (d : Directory) (name : String) (w : Renewal) : Renewal :=
  let profiles := (d.profiles name).getD .empty
  match w.stage with
  | .deciding =>
    if (d.profiles name).isNone && (d.servers name).isEmpty then
      ⟨w.registry.enter name none, .ended (.ok ())⟩
    else
      match check w.registry.settings name (w.registry.known d name) (d.servers name) with
      | .error e => { w with stage := .ended (.error e) }
      | .ok () =>
        let found := w.registry.serviceFor name
        { w with stage := .gathering found found.servers found.nextId [] (d.servers name) }
  | .gathering found free nextId taken (spec :: specs) =>
    match Service.takeFirst (·.isOf spec) free with
    | some (server, free) =>
      { w with stage := .gathering found free nextId (taken ++ [server]) specs }
    | none =>
      match Server.build nextId spec found.windows
          (found.slowStart? w.registry.clock (Service.defaultOf profiles)) with
      | .error e => { w with stage := .ended (.error (.server name e)) }
      | .ok server =>
        { w with stage := .gathering found free (nextId + 1) (taken ++ [server]) specs }
  | .gathering found free nextId taken [] =>
    let published := { found with
      profiles := Service.withDefault profiles
      servers := taken
      retired := found.retired ++ free
      nextId }
    ⟨w.registry.write name published, .switching published⟩
  | .switching service =>
    let switched := { service with enabled := d.enabled name }
    ⟨w.registry.write name switched, .entering switched⟩
  | .entering service => ⟨w.registry.enter name (some service), .ended (.ok ())⟩
  | .ended _ => w

variable {r : Registry} {d : Directory} {name : String} {w : Renewal}

theorem advance_ended {outcome : Except UpdateError Unit} (ended : w.stage = .ended outcome) :
    advance d name w = w := by
  unfold advance
  dsimp only
  rw [ended]

theorem iterate_ended {outcome : Except UpdateError Unit} (ended : w.stage = .ended outcome)
    (n : Nat) : (advance d name)^[n] w = w :=
  Function.iterate_fixed (advance_ended ended) n

-- Gathering makes the roster of the update, or stops with its error.
theorem iterate_gathering (r : Registry) (d : Directory) (name : String) (found : Service)
    (free : List Server) (nextId : Nat) (taken : List Server) (specs : List ServerSpec) :
    let slowStart := found.slowStart? r.clock
      (Service.defaultOf ((d.profiles name).getD .empty))
    (advance d name)^[specs.length] ⟨r, .gathering found free nextId taken specs⟩
      = match Service.roster found.windows slowStart free nextId specs with
        | .ok roster => ⟨r, .gathering found roster.left roster.nextId (taken ++ roster.servers) []⟩
        | .error e => ⟨r, .ended (.error (.server name e))⟩ := by
  intro slowStart
  induction specs generalizing free nextId taken with
  | nil => simp [Service.roster]
  | cons spec specs ih =>
    rw [List.length_cons, Function.iterate_succ_apply]
    cases met : Service.takeFirst (·.isOf spec) free with
    | some pair =>
      obtain ⟨server, rest⟩ := pair
      have step : advance d name ⟨r, .gathering found free nextId taken (spec :: specs)⟩
          = ⟨r, .gathering found rest nextId (taken ++ [server]) specs⟩ := by
        simp only [advance, met]
      rw [step, ih, Service.roster_cons_of_taken met]
      cases Service.roster found.windows slowStart rest nextId specs <;> simp [Except.map]
    | none =>
      rw [Service.roster_cons_of_new met]
      cases built : Server.build nextId spec found.windows slowStart with
      | error e =>
        have step : advance d name ⟨r, .gathering found free nextId taken (spec :: specs)⟩
            = ⟨r, .ended (.error (.server name e))⟩ := by
          simp only [advance, met]
          rw [built]
        rw [step, iterate_ended rfl]
        rfl
      | ok server =>
        have step : advance d name ⟨r, .gathering found free nextId taken (spec :: specs)⟩
            = ⟨r, .gathering found free (nextId + 1) (taken ++ [server]) specs⟩ := by
          simp only [advance, met]
          rw [built]
        rw [step, ih]
        cases Service.roster found.windows slowStart free (nextId + 1) specs <;>
          simp [Except.map, Except.bind]

theorem enter_write (r : Registry) (name : String) (s s' : Service) :
    (r.write name s).enter name (some s') = r.enter name (some s') := by
  unfold write
  cases r.services.get? name with
  | none => rfl
  | some registered =>
    have services : (r.services.insert name s).insert name s' = r.services.insert name s' := by
      refine SortedMap.ext_get? fun other => ?_
      by_cases same : other = name <;> simp [same]
    simp only [enter, setService, services]

-- From the checked descriptors to the end.
theorem iterate_published (r : Registry) (d : Directory) (name : String) (found : Service)
    (roster : Service.Roster) :
    (advance d name)^[3] ⟨r, .gathering found roster.left roster.nextId roster.servers []⟩
      = ⟨r.enter name (some { found with
          profiles := Service.withDefault ((d.profiles name).getD .empty)
          servers := roster.servers
          retired := found.retired ++ roster.left
          nextId := roster.nextId
          enabled := d.enabled name }), .ended (.ok ())⟩ := by
  simp only [Function.iterate_succ_apply, Function.iterate_zero, id_eq, advance, enter_write]

theorem iterate_advance (r : Registry) (d : Directory) (name : String) :
    (advance d name)^[(d.servers name).length + 4] (start r) = match r.renewed d name with
      | .ok found => ⟨r.enter name found, .ended (.ok ())⟩
      | .error e => ⟨r, .ended (.error e)⟩ := by
  rw [Function.iterate_succ_apply]
  unfold renewed
  cases nothing : (d.profiles name).isNone && (d.servers name).isEmpty with
  | true =>
    have step : advance d name (start r) = ⟨r.enter name none, .ended (.ok ())⟩ := by
      simp only [advance, start, nothing, if_true]
    rw [step, iterate_ended rfl, if_pos rfl]
  | false =>
    rw [if_neg Bool.false_ne_true]
    cases checked : check r.settings name (r.known d name) (d.servers name) with
    | error e =>
      have step : advance d name (start r) = ⟨r, .ended (.error e)⟩ := by
        simp only [advance, start, nothing, Bool.false_eq_true, if_false, checked]
      rw [step, iterate_ended rfl]
    | ok =>
      have step : advance d name (start r) = ⟨r, .gathering (r.serviceFor name)
          (r.serviceFor name).servers (r.serviceFor name).nextId [] (d.servers name)⟩ := by
        simp only [advance, start, nothing, Bool.false_eq_true, if_false, checked]
      rw [step, Nat.add_comm, Function.iterate_add_apply, iterate_gathering, Service.update_eq]
      cases Service.roster (r.serviceFor name).windows ((r.serviceFor name).slowStart? r.clock
          (Service.defaultOf ((d.profiles name).getD .empty))) (r.serviceFor name).servers
          (r.serviceFor name).nextId (d.servers name) with
      | error e => exact iterate_ended rfl 3
      | ok roster => exact iterate_published r d name (r.serviceFor name) roster

-- The stages after the first write.
def Wrote : Stage → Prop
  | .switching _ | .entering _ | .ended (.ok _) => True
  | _ => False

-- Once it has written, an update does not fail.
theorem wrote_advance (wrote : Wrote w.stage) : Wrote (advance d name w).stage := by
  obtain ⟨registry, stage⟩ := w
  cases stage with
  | deciding => cases wrote
  | gathering => cases wrote
  | switching => exact trivial
  | entering => exact trivial
  | ended outcome => exact wrote

theorem wrote_iterate (wrote : Wrote w.stage) (n : Nat) :
    Wrote ((advance d name)^[n] w).stage := by
  induction n generalizing w with
  | zero => exact wrote
  | succ n ih =>
    rw [Function.iterate_succ_apply]
    exact ih (wrote_advance wrote)

theorem registry_advance (unwritten : ¬Wrote (advance d name w).stage) :
    (advance d name w).registry = w.registry := by
  obtain ⟨registry, stage⟩ := w
  cases stage with
  | deciding =>
    revert unwritten
    unfold advance
    dsimp only
    split
    · exact fun unwritten => absurd trivial unwritten
    · split <;> exact fun _ => rfl
  | gathering found free nextId taken specs =>
    cases specs with
    | nil => exact absurd trivial unwritten
    | cons spec specs =>
      unfold advance
      dsimp only
      split
      · rfl
      · split <;> rfl
  | switching => exact absurd trivial unwritten
  | entering => exact absurd trivial unwritten
  | ended => rfl

theorem registry_iterate {n : Nat} (unwritten : ¬Wrote ((advance d name)^[n] w).stage) :
    ((advance d name)^[n] w).registry = w.registry := by
  induction n with
  | zero => rfl
  | succ n ih =>
    rw [Function.iterate_succ_apply'] at unwritten ⊢
    rw [registry_advance unwritten]
    exact ih fun wrote => unwritten (wrote_advance wrote)

theorem registry_of_failed {e : UpdateError} (failed : r.renewed d name = .error e) (n : Nat) :
    ((advance d name)^[n] (start r)).registry = r := by
  refine registry_iterate fun wrote => ?_
  have ended := iterate_advance r d name
  rw [failed] at ended
  have later : Wrote ((advance d name)^[(d.servers name).length + 4]
      ((advance d name)^[n] (start r))).stage := wrote_iterate wrote _
  rw [← Function.iterate_add_apply, Nat.add_comm, Function.iterate_add_apply, ended,
    iterate_ended rfl] at later
  exact later

end Renewal

variable {r : Registry} {d : Directory} {name : String}

-- Why the update of a name fails.
inductive Fault (r : Registry) (d : Directory) (name : String) : UpdateError → Prop where
  | degraded (short : isDegraded r.settings.allowedDegradation (r.known d name)
      (d.servers name).length = true) :
    Fault r d name (.degraded name (r.known d name) (d.servers name).length)
  | noLocal {dc : String} (asked : r.settings.skipWithoutLocal = true)
      (here : r.settings.datacenter = some dc) (absent : hasLocal dc (d.servers name) = false) :
    Fault r d name (.noLocalDatacenter name dc)
  | server {before after : List ServerSpec} {bad : ServerSpec} {id : Nat}
      {slowStart : Option SlowStart} {e : ServerError}
      (listed : d.servers name = before ++ bad :: after)
      (unbuilt : Server.build id bad (r.serviceFor name).windows slowStart = .error e) :
    Fault r d name (.server name e)

theorem fault_of_check {e : UpdateError}
    (refused : check r.settings name (r.known d name) (d.servers name) = .error e) :
    Fault r d name e ∧ e.isRefusal = true := by
  unfold check at refused
  split at refused
  · rename_i short
    cases refused
    exact ⟨.degraded short, rfl⟩
  · split at refused
    · rename_i dc asked here
      split at refused
      · cases refused
      · rename_i absent
        cases refused
        exact ⟨.noLocal asked here (by simpa using absent), rfl⟩
    · cases refused

theorem fault_of_failed {e : UpdateError} (failed : r.renewed d name = .error e) :
    Fault r d name e := by
  unfold renewed at failed
  split at failed
  · cases failed
  · split at failed
    · rename_i refused
      cases failed
      exact (fault_of_check refused).1
    · rw [Service.update_eq] at failed
      cases made : Service.roster (r.serviceFor name).windows ((r.serviceFor name).slowStart?
          r.clock (Service.defaultOf ((d.profiles name).getD .empty))) (r.serviceFor name).servers
          (r.serviceFor name).nextId (d.servers name) with
      | ok roster => simp [made, Except.map] at failed
      | error cause =>
        simp only [made, Except.map, Except.error.injEq] at failed
        obtain ⟨before, bad, after, id, listed, unbuilt⟩ := Service.roster_error made
        rw [← failed]
        exact .server listed unbuilt

-- A wrong address makes an update fail wherever it stands in the list.
theorem failed_of_bad {bad : ServerSpec} (listed : bad ∈ d.servers name)
    (unparsed : Endpoint.parse? bad.address = none)
    (unmet : ∀ server ∈ (r.serviceFor name).servers, server.isOf bad = false) :
    ∃ e, r.renewed d name = .error e := by
  unfold renewed
  have some_listed : (d.servers name).isEmpty = false := by
    cases servers : d.servers name with
    | nil =>
      rw [servers] at listed
      cases listed
    | cons => rfl
  rw [some_listed, Bool.and_false, if_neg Bool.false_ne_true]
  cases check r.settings name (r.known d name) (d.servers name) with
  | error e => exact ⟨e, rfl⟩
  | ok =>
    rw [Service.update_eq]
    cases made : Service.roster (r.serviceFor name).windows ((r.serviceFor name).slowStart?
        r.clock (Service.defaultOf ((d.profiles name).getD .empty))) (r.serviceFor name).servers
        (r.serviceFor name).nextId (d.servers name) with
    | error e => exact ⟨_, rfl⟩
    | ok roster =>
      refine absurd made (Service.roster_of_bad listed unmet fun id s built => ?_)
      rw [Server.build_of_unparsed unparsed] at built
      cases built

theorem failed_update_leaves_no_trace (r : Registry) (d : Directory) (name : String) :
    (∀ bad ∈ d.servers name, Endpoint.parse? bad.address = none →
      (∀ server ∈ (r.serviceFor name).servers, server.isOf bad = false) →
      ∃ e, r.updateOne d name = .error e) ∧
    ∀ e, r.updateOne d name = .error e →
      Fault r d name e ∧
      (∀ n, ((Renewal.advance d name)^[n] (.start r)).registry = r) ∧
      (∃ n, (Renewal.advance d name)^[n] (.start r) = ⟨r, .ended (.error e)⟩) ∧
      (∀ names, (r.update d names).registry.services.get? name = r.services.get? name) ∧
      (∀ names, (∀ other ∈ names, ∃ e, r.updateOne d other = .error e) →
        (r.update d names).registry = r) := by
  constructor
  · intro bad listed unparsed unmet
    obtain ⟨e, failed⟩ := failed_of_bad listed unparsed unmet
    exact ⟨e, updateOne_error_iff.mpr failed⟩
  · intro e failed
    have failed := updateOne_error_iff.mp failed
    have ended := Renewal.iterate_advance r d name
    rw [failed] at ended
    refine ⟨fault_of_failed failed, Renewal.registry_of_failed failed, ⟨_, ended⟩, ?_, ?_⟩
    · exact get?_updateAll_of_error failed
    · intro names all
      refine updateAll_of_all_failed fun other listed => ?_
      obtain ⟨e, failed⟩ := all other listed
      exact ⟨e, updateOne_error_iff.mp failed⟩

-- One update of a registered name fails for each reason, and one of a name that is not registered.
theorem failing_updates_of_shop :
    let near (address : String) : ServerSpec := { address, datacenter := some "DC1" }
    let far (address : String) : ServerSpec := { address, datacenter := some "dc2" }
    let listing (servers : List ServerSpec) : Directory :=
      .ofListings (.ofList [("shop", { servers }), ("depot", { servers })])
    let r := ((create { datacenter := some "dc1", skipWithoutLocal := true }).update
      (listing [near "a:80", near "b:80"]) ["shop"]).registry
    let wrong := listing [near "b:80", near "c:80", near "not an address", near "a:80"]
    (r.services.get? "shop").map (·.servers.length) = some 2 ∧ r.services.get? "depot" = none ∧
    r.updateOne (listing []) "shop" = .error (.degraded "shop" 2 0) ∧
    (∀ n, ((Renewal.advance (listing []) "shop")^[n] (.start r)).registry = r) ∧
    r.updateOne (listing [far "a:80", far "b:80"]) "shop"
      = .error (.noLocalDatacenter "shop" "dc1") ∧
    (r.update (listing [far "a:80", far "b:80"]) ["shop"]).registry.services.get? "shop"
      = r.services.get? "shop" ∧
    r.updateOne wrong "shop" = .error (.server "shop" (.invalidAddress "not an address")) ∧
    (r.update wrong ["depot", "shop", "depot"]).registry = r := by
  intro near far listing r wrong
  have facts : (r.services.get? "shop").map (·.servers.length) = some 2 ∧
      r.services.get? "depot" = none ∧
      r.updateOne (listing []) "shop" = .error (.degraded "shop" 2 0) ∧
      r.updateOne (listing [far "a:80", far "b:80"]) "shop"
        = .error (.noLocalDatacenter "shop" "dc1") ∧
      r.updateOne wrong "shop" = .error (.server "shop" (.invalidAddress "not an address")) := by
    decide +kernel +revert
  obtain ⟨registered, absent, degraded, noLocal, invalid⟩ := facts
  have depot : ∃ e, r.updateOne wrong "depot" = .error e :=
    (failed_update_leaves_no_trace r wrong "depot").1 (near "not an address")
      (by decide +kernel +revert) (by decide +kernel) (by decide +kernel +revert)
  obtain ⟨_, steps, _⟩ := (failed_update_leaves_no_trace r (listing []) "shop").2 _ degraded
  obtain ⟨_, _, _, kept, _⟩ := (failed_update_leaves_no_trace r _ "shop").2 _ noLocal
  obtain ⟨_, _, _, _, all⟩ := (failed_update_leaves_no_trace r wrong "shop").2 _ invalid
  refine ⟨registered, absent, degraded, steps, noLocal, kept _, invalid, all _ ?_⟩
  intro other listed
  simp only [List.mem_cons, List.not_mem_nil, or_false] at listed
  rcases listed with rfl | rfl | rfl
  · exact depot
  · exact ⟨_, invalid⟩
  · exact depot

end Balancing.Registry
