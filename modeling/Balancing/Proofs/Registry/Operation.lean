import Balancing.Proofs.Registry.Batch
import Balancing.Proofs.Service.Moment

namespace Balancing

-- All that a directory says of one name.
def Directory.listing (d : Directory) (name : String) : Listing :=
  { servers := d.servers name, profiles := d.profiles name, initialSize := d.initialSize name,
    enabled := d.enabled name }

-- A name without profiles and servers is dropped by its update.
def Directory.drops (d : Directory) (name : String) : Bool :=
  (d.profiles name).isNone && (d.servers name).isEmpty

-- A service that is set up as listed, with one server for each descriptor.
structure Service.Lists (s : Service) (listing : Listing) : Prop where
  profiles : s.profiles = withDefault (listing.profiles.getD .empty)
  servers : List.Forall₂ (fun server spec => server.isOf spec = true) s.servers listing.servers
  enabled : s.enabled = listing.enabled

theorem rel_some_left {α β : Type} {R : α → β → Prop} {x : Option α} {y : Option β} {a : α}
    (related : Option.Rel R x y) (found : x = some a) : ∃ b, y = some b ∧ R a b := by
  subst found
  cases related with
  | some related => exact ⟨_, rfl, related⟩

theorem rel_some_right {α β : Type} {R : α → β → Prop} {x : Option α} {y : Option β} {b : β}
    (related : Option.Rel R x y) (found : y = some b) : ∃ a, x = some a ∧ R a b := by
  subst found
  cases related with
  | some related => exact ⟨_, rfl, related⟩

theorem rel_none {α β : Type} {R : α → β → Prop} {x : Option α} {y : Option β}
    (related : Option.Rel R x y) (absent : x = none) : y = none := by
  subst absent
  cases related with
  | none => rfl

-- What requests do to a service. An adaptive acquire does nothing to it.
inductive Usage where
  | acquire (excluded : List Nat)
  | release (profile : String) (entry : Entry) (isError : Bool) (micros : UInt64) (adaptive : Bool)

namespace Service

def use (s : Service) (now : Instant) : Usage → Service
  | .acquire excluded => (s.acquire now excluded).2
  | .release profile entry isError micros adaptive =>
    (s.release now profile entry isError micros adaptive).1

variable {s s' : Service}

theorem used_of_use (s : Service) (now : Instant) (usage : Usage) :
    s.Used (s.use now usage) := by
  cases usage with
  | acquire excluded => exact used_acquire ..
  | release profile entry isError micros adaptive => exact used_release ..

theorem Lists.of_used {listing : Listing} (lists : s.Lists listing) (used : s.Used s') :
    s'.Lists listing where
  profiles := (congrArg Service.profiles used.shell :).trans lists.profiles
  servers := fit_congr (used.map Origin.isOf) lists.servers
  enabled := (congrArg Service.enabled used.shell :).trans lists.enabled

end Service

namespace Registry

inductive Event where
  | update (d : Directory) (names : List String)
  | use (name : String) (usage : Usage)
  | elapse (nanoseconds : Nat)

def after (r : Registry) : Event → Registry
  | .update d names => (r.update d names).registry
  | .use name usage =>
    match r.services.get? name with
    | some s => r.setService name (s.use r.clock usage)
    | none => r
  | .elapse nanoseconds => r.elapse nanoseconds

def run (r : Registry) (events : List Event) : Registry := events.foldl after r

variable {r : Registry}

-- A name ends removed or as listed, the latter after its check only.
theorem renewed_ok {d : Directory} {name : String} {found : Option Service}
    (renewal : r.renewed d name = .ok found) :
    d.drops name = true ∧ found = none ∨
    d.drops name = false ∧
      check r.settings name (r.known d name) (d.servers name) = .ok () ∧
      ∃ s, found = some s ∧ s.Lists (d.listing name) ∧
        s.datacenter = (r.serviceFor name).datacenter := by
  unfold renewed at renewal
  split at renewal
  · rename_i nothing
    cases renewal
    exact .inl ⟨nothing, rfl⟩
  · rename_i asked
    rw [Bool.not_eq_true] at asked
    split at renewal
    · cases renewal
    · rename_i passed
      split at renewal
      · cases renewal
      · rename_i updated update_ok
        cases renewal
        obtain ⟨roster, slowStart, made, rfl⟩ := Service.update_ok update_ok
        exact .inr ⟨asked, passed, _, rfl, ⟨rfl, Service.roster_isOf made, rfl⟩, rfl⟩

theorem settings_after (r : Registry) (event : Event) : (r.after event).settings = r.settings := by
  cases event with
  | update d names => exact settings_updateAll ..
  | use name usage =>
    unfold after
    dsimp only
    split <;> rfl
  | elapse nanoseconds => rfl

theorem settings_run (r : Registry) (events : List Event) :
    (r.run events).settings = r.settings := by
  induction events generalizing r with
  | nil => rfl
  | cons event events ih => exact (ih (r.after event)).trans (settings_after r event)

theorem used_same (found : Option Service) : Option.Rel Service.Used found found := by
  cases found with
  | none => exact .none
  | some s => exact .some (Service.used_refl s)

-- Requests and time, as far as one name is concerned.
theorem used_of_use (r : Registry) (name : String) (usage : Usage) (other : String) :
    Option.Rel Service.Used (r.services.get? other)
      ((r.after (.use name usage)).services.get? other) := by
  unfold after
  dsimp only
  cases found : r.services.get? name with
  | none => exact used_same _
  | some s =>
    show Option.Rel _ _ ((r.services.insert name (s.use r.clock usage)).get? other)
    rw [SortedMap.get?_insert]
    split
    · rename_i same
      rw [same, found]
      exact .some (Service.used_of_use ..)
    · exact used_same _

theorem used_of_elapse (r : Registry) (nanoseconds : Nat) (name : String) :
    Option.Rel Service.Used (r.services.get? name)
      ((r.elapse nanoseconds).services.get? name) := by
  rw [elapse, wake, SortedMap.get?_map]
  cases r.services.get? name with
  | none => exact .none
  | some s => exact .some (Service.used_wake ..)

theorem all_of_used {P : Service → Prop} {r' : Registry} (all : All P r)
    (step : ∀ s s' : Service, s.Used s' → P s → P s')
    (used : ∀ name, Option.Rel Service.Used (r.services.get? name) (r'.services.get? name)) :
    All P r' := by
  intro name s' there
  obtain ⟨s, before, used⟩ := rel_some_right (used name) there
  exact step s s' used (all name s before)

end Registry

end Balancing
