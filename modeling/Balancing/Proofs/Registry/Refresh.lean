import Balancing.Proofs.Registry.Degradation
import Balancing.Proofs.Registry.Operation

namespace Balancing

-- An update to what is there already.
theorem Service.Lists.update {s : Service} {listing : Listing} (lists : s.Lists listing)
    (now : Instant) :
    s.update now (listing.profiles.getD .empty) listing.servers = .ok s := by
  rw [update_eq, roster_same lists.servers, ← lists.profiles]
  simp [Except.map]

namespace Registry

variable {r r' : Registry} {d d' : Directory} {name : String}

-- A list that has passed passes also against its own length. An empty one has shown that nothing
-- needs to be kept, unless nothing was known.
theorem check_again {settings : Settings} {known known' : Nat} {specs : List ServerSpec}
    (passed : check settings name known specs = .ok ())
    (full : specs ≠ [] → known' = specs.length)
    (empty : specs = [] → 0 < known' → 0 < known) :
    check settings name known' specs = .ok () := by
  rw [check_eq_ok_iff] at passed ⊢
  refine ⟨?_, passed.2⟩
  cases specs with
  | cons spec specs =>
    rw [full (List.cons_ne_nil spec specs)]
    exact not_isDegraded_self ..
  | nil =>
    rw [← Bool.not_eq_true]
    intro short
    obtain ⟨some_known, kept⟩ := (isDegraded_zero_iff ..).mp short
    have short_before := (isDegraded_zero_iff settings.allowedDegradation known).mpr
      ⟨empty rfl some_known, kept⟩
    rw [List.length_nil] at passed
    rw [passed.1] at short_before
    cases short_before

-- The registry has of the name what the directory says, and would take it again.
inductive Settled (r : Registry) (d : Directory) (name : String) : Prop where
  | gone (dropped : d.drops name = true) (absent : r.services.get? name = none)
  | kept {s : Service} (asked : d.drops name = false)
    (there : r.services.get? name = some s) (lists : s.Lists (d.listing name))
    (passes : check r.settings name (r.known d name) (d.servers name) = .ok ())

theorem renewed_of_settled (settled : r.Settled d name) :
    r.renewed d name = .ok (r.services.get? name) := by
  unfold renewed
  cases settled with
  | gone dropped absent =>
    rw [Directory.drops] at dropped
    rw [dropped, if_pos rfl, absent]
  | @kept s asked there lists passes =>
    have found : r.serviceFor name = s := by rw [serviceFor, there, Option.getD_some]
    have same : s.update r.clock ((d.profiles name).getD .empty) (d.servers name) = .ok s :=
      lists.update r.clock
    have enabled : s.enabled = d.enabled name := lists.enabled
    rw [Directory.drops] at asked
    rw [asked, if_neg Bool.false_ne_true, passes, found, there]
    dsimp only
    rw [same, ← enabled]

-- The second look takes other ways than the first: it finds a service, and servers to count.
theorem settled_enter {found : Option Service} (renewal : r.renewed d name = .ok found) :
    (r.enter name found).Settled d name := by
  rcases renewed_ok renewal with ⟨dropped, rfl⟩ | ⟨asked, passed, s, rfl, lists, _⟩
  · exact .gone dropped (by rw [get?_enter, if_pos rfl])
  · refine .kept asked (by rw [get?_enter, if_pos rfl]) lists ?_
    have length : s.servers.length = (d.servers name).length := lists.servers.length_eq
    unfold known
    rw [settings_enter, get?_enter, if_pos rfl, knownSize_some, length]
    refine check_again passed (fun some_listed => ?_) (fun none_listed some_known => ?_)
    · rw [if_neg (mt List.length_eq_zero_iff.mp some_listed)]
    · rw [none_listed, List.length_nil, if_pos rfl] at some_known
      exact knownSize_pos some_known

theorem Settled.of_used (settled : r.Settled d name) (settings : r'.settings = r.settings)
    (used : Option.Rel Service.Used (r.services.get? name) (r'.services.get? name)) :
    r'.Settled d name := by
  cases settled with
  | gone dropped absent => exact .gone dropped (rel_none used absent)
  | @kept s asked there lists passes =>
    obtain ⟨s', later, used⟩ := rel_some_left used there
    refine .kept asked later (lists.of_used used) ?_
    unfold known at passes ⊢
    rw [there, knownSize_some] at passes
    rw [later, knownSize_some, used.length, settings]
    exact passes

theorem Settled.congr (settled : r.Settled d name) (settings : r'.settings = r.settings)
    (same : r'.services.get? name = r.services.get? name) : r'.Settled d name := by
  apply settled.of_used settings
  rw [same]
  exact used_same _

theorem renewed_of_listing (same : d'.listing name = d.listing name) :
    r.renewed d' name = r.renewed d name := by
  simp only [Directory.listing, Listing.mk.injEq] at same
  obtain ⟨servers, profiles, initialSize, enabled⟩ := same
  simp only [renewed, known, servers, profiles, initialSize, enabled]

theorem get?_updateAll_of_settled (settled : r.Settled d name)
    (same : d'.listing name = d.listing name) (names : List String) :
    (r.updateAll d' names).1.services.get? name = r.services.get? name := by
  induction names generalizing r with
  | nil => rfl
  | cons first names ih =>
    rw [updateAll_cons]
    cases renewal : r.renewed d' first with
    | error e => exact ih settled
    | ok found =>
      have kept : (r.enter first found).services.get? name = r.services.get? name := by
        rw [get?_enter]
        split
        · rename_i here
          subst here
          rw [renewed_of_listing same, renewed_of_settled settled] at renewal
          cases renewal
          rfl
        · rfl
      exact (ih (settled.congr (settings_enter ..) kept)).trans kept

theorem settled_after (settled : r.Settled d name) (event : Event)
    (unchanged : ∀ d' names, event = .update d' names → d'.listing name = d.listing name) :
    (r.after event).Settled d name := by
  cases event with
  | update d' names =>
    exact settled.congr (settings_updateAll ..)
      (get?_updateAll_of_settled settled (unchanged d' names rfl) names)
  | use served usage => exact settled.of_used (settings_after ..) (used_of_use ..)
  | elapse nanoseconds => exact settled.of_used rfl (used_of_elapse ..)

theorem settled_run (settled : r.Settled d name) (events : List Event)
    (unchanged : ∀ d' names, .update d' names ∈ events → d'.listing name = d.listing name) :
    (r.run events).Settled d name := by
  induction events generalizing r with
  | nil => exact settled
  | cons event events ih =>
    obtain ⟨first, later⟩ : (∀ d' names, event = .update d' names →
        d'.listing name = d.listing name) ∧
        ∀ d' names, .update d' names ∈ events → d'.listing name = d.listing name := by
      constructor
      · rintro d' names rfl
        exact unchanged d' names List.mem_cons_self
      · exact fun d' names member => unchanged d' names (List.mem_cons_of_mem event member)
    exact ih (settled_after settled event first) later

theorem enter_same (r : Registry) (name : String) : r.enter name (r.services.get? name) = r := by
  refine ext_services (settings_enter ..) (clock_enter ..) fun other => ?_
  rw [get?_enter]
  split
  · rename_i same
    rw [same]
  · rfl

theorem updateOne_of_settled (settled : r.Settled d name) : r.updateOne d name = .ok r := by
  rw [updateOne_eq, renewed_of_settled settled]
  exact congrArg Except.ok (enter_same r name)

theorem refresh_changes_nothing (updated : r.updateOne d name = .ok r') (events : List Event)
    (unchanged : ∀ d' names, .update d' names ∈ events → d'.listing name = d.listing name) :
    r'.updateOne d name = .ok r' ∧
    let now := r'.run events
    now.updateOne d name = .ok now ∧
    now.update d [name] = ⟨now, [], none⟩ ∧
    ∀ names, (now.update d names).registry.services.get? name = now.services.get? name := by
  have settled : r'.Settled d name := by
    rw [updateOne_eq] at updated
    cases renewal : r.renewed d name with
    | error e =>
      rw [renewal] at updated
      cases updated
    | ok found =>
      rw [renewal] at updated
      cases updated
      exact settled_enter renewal
  refine ⟨updateOne_of_settled settled, ?_⟩
  intro now
  have still : now.Settled d name := settled_run settled events unchanged
  have again : now.updateOne d name = .ok now := updateOne_of_settled still
  refine ⟨again, ?_, get?_updateAll_of_settled still rfl⟩
  unfold update
  simp only [updateAll, again]
  rfl

-- Two servers of one descriptor, one of them in use, and one that starts slowly, under a setting
-- that is no number.
theorem shop_refreshed_in_use :
    let listing (addresses : List String) : Directory := .ofListings (.ofList [("shop",
      { servers := addresses.map fun address => { address },
        profiles := some (.ofList [("default", { slowStartSeconds := 60 })]) })])
    let r := ((create { allowedDegradation := .nan }).update (listing ["a:80"]) ["shop"]).registry
    let d := listing ["a:80", "a:80", "b:80"]
    let events : List Event :=
      [.elapse 5, .use "shop" (.acquire []), .update d ["shop"], .elapse 7]
    ∃ r', r.updateOne d "shop" = .ok r' ∧ r'.updateOne d "shop" = .ok r' ∧
      let now := r'.run events
      now.updateOne d "shop" = .ok now ∧
      (now.services.get? "shop").map (·.servers.map fun s => (s.id, s.requests, s.slowStart.isSome))
        = some [(0, 1, false), (1, 0, true), (2, 0, true)] := by
  intro listing r d events
  have facts : ∃ r', r.updateOne d "shop" = .ok r' ∧
      ((r'.run events).services.get? "shop").map
          (·.servers.map fun s => (s.id, s.requests, s.slowStart.isSome))
        = some [(0, 1, false), (1, 0, true), (2, 0, true)] := by
    have updated : (r.updateOne d "shop").toOption.bind (fun r' =>
        ((r'.run events).services.get? "shop").map
          (·.servers.map fun s => (s.id, s.requests, s.slowStart.isSome)))
        = some [(0, 1, false), (1, 0, true), (2, 0, true)] := by
      decide +kernel +revert
    cases outcome : r.updateOne d "shop" with
    | error e =>
      rw [outcome] at updated
      cases updated
    | ok r' =>
      rw [outcome] at updated
      exact ⟨r', rfl, updated⟩
  obtain ⟨r', updated, served⟩ := facts
  have unchanged : ∀ d' names, .update d' names ∈ events →
      d'.listing "shop" = d.listing "shop" := by
    intro d' names member
    simp only [events, List.mem_cons, Event.update.injEq, reduceCtorEq, false_or, or_false,
      List.not_mem_nil] at member
    rw [member.1]
  obtain ⟨again, later, _⟩ := refresh_changes_nothing updated events unchanged
  exact ⟨r', updated, again, later, served⟩

end Registry

end Balancing
