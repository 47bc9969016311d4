import Balancing.Proofs.Config.Faults
import Balancing.Proofs.Numbers.Representable
import Balancing.Proofs.Text.Bytes
import Mathlib.Data.List.Nodup

namespace Balancing

inductive ServerFault where
  | unparsed
  | zeroWeight
  | repeated
  deriving DecidableEq, Repr

inductive Violation where
  | degradation (part : Binary64)
  | timeoutFactor (factor : Binary64)
  | profile (service name : String) (fault : ProfileFault)
  | server (service : String) (place : Nat) (address : String) (fault : ServerFault)
  deriving DecidableEq, Repr

-- Where the place of a server is lost, since a fault names it by its address.
def Violation.fault : Violation → ConfigFault
  | degradation part => .degradation part
  | timeoutFactor factor => .timeoutFactor factor
  | profile service name fault => .profile service name fault
  | server service _ address .unparsed => .address service address
  | server service _ address .zeroWeight => .zeroWeight service address
  | server service _ address .repeated => .duplicate service address

def Binary64.InUnit (x : Binary64) : Prop := x.isFinite ∧ 0 ≤ x.value ∧ x.value ≤ 1

def Binary64.AboveZero (x : Binary64) : Prop := x = .infinite false ∨ x.isFinite ∧ 0 < x.value

def Profile.Lacks (p : Profile) : ProfileFault → Prop
  | .noTries => p.maxTries = 0
  | .noRequestTimeout => p.requestTimeoutMs = 0
  | .noFailTimeout => p.failTimeoutMs = 0 ∧ p.maxFails ≠ 0

-- What is wrong with a server listed after those of `earlier`.
def ServerSpec.Fails (spec : ServerSpec) (earlier : List ServerSpec) : ServerFault → Prop
  | .unparsed => Endpoint.parse? spec.address = none
  | .zeroWeight => spec.weight = 0
  | .repeated => ∃ other ∈ earlier, other.address = spec.address

inductive ConfigFile.Violates (c : ConfigFile) : Violation → Prop where
  | degradation (outside : ¬c.settings.allowedDegradation.InUnit) :
    Violates c (.degradation c.settings.allowedDegradation)
  | timeoutFactor (low : ¬c.settings.timeoutFactor.AboveZero) :
    Violates c (.timeoutFactor c.settings.timeoutFactor)
  | profile {service name : String} {entry : ServiceEntry} {p : Profile} {fault : ProfileFault}
    (found : c.services.get? service = some entry) (given : entry.profiles.get? name = some p)
    (lacks : p.Lacks fault) : Violates c (.profile service name fault)
  | server {service : String} {entry : ServiceEntry} {earlier later : List ServerSpec}
    {spec : ServerSpec} {fault : ServerFault} (found : c.services.get? service = some entry)
    (listed : entry.servers = earlier ++ spec :: later) (fails : spec.Fails earlier fault) :
    Violates c (.server service earlier.length spec.address fault)

structure Profile.Sound (p : Profile) : Prop where
  tries : 0 < p.maxTries
  requestTimeout : 0 < p.requestTimeoutMs
  failTimeout : p.maxFails = 0 ∨ 0 < p.failTimeoutMs

structure ConfigFile.Sound (c : ConfigFile) : Prop where
  degradation : c.settings.allowedDegradation.InUnit
  timeoutFactor : c.settings.timeoutFactor.AboveZero
  profiles : ∀ service entry, c.services.get? service = some entry →
    ∀ name p, entry.profiles.get? name = some p → p.Sound
  servers : ∀ service entry, c.services.get? service = some entry →
    (∀ spec ∈ entry.servers, spec.Sound) ∧ (entry.servers.map (·.address)).Nodup

def ProfileFault.rank : ProfileFault → Nat
  | noTries => 0
  | noRequestTimeout => 1
  | noFailTimeout => 2

def ServerFault.rank : ServerFault → Nat
  | unparsed => 0
  | zeroWeight => 1
  | repeated => 2

namespace Violation

-- The service that a violation is about, if it is not about the settings.
def service? : Violation → Option String
  | degradation _ => none
  | timeoutFactor _ => none
  | profile service .. => some service
  | server service .. => some service

inductive Before : Violation → Violation → Prop where
  | settings {part factor : Binary64} : Before (.degradation part) (.timeoutFactor factor)
  | settingsFirst {v w : Violation} {service : String} (first : v.service? = none)
    (second : w.service? = some service) : Before v w
  | services {v w : Violation} {service service' : String} (first : v.service? = some service)
    (second : w.service? = some service') (less : Text.bytes service < Text.bytes service') :
    Before v w
  | profilesFirst {service name address : String} {place : Nat} {fault : ProfileFault}
    {fault' : ServerFault} : Before (.profile service name fault)
      (.server service place address fault')
  | profiles {service name name' : String} {fault fault' : ProfileFault}
    (less : Text.bytes name < Text.bytes name') :
    Before (.profile service name fault) (.profile service name' fault')
  | profile {service name : String} {fault fault' : ProfileFault}
    (less : fault.rank < fault'.rank) :
    Before (.profile service name fault) (.profile service name fault')
  | servers {service address address' : String} {place place' : Nat} {fault fault' : ServerFault}
    (less : place < place') :
    Before (.server service place address fault) (.server service place' address' fault')
  | server {service address : String} {place : Nat} {fault fault' : ServerFault}
    (less : fault.rank < fault'.rank) :
    Before (.server service place address fault) (.server service place address fault')

-- Of no two places each comes before the other: one case for each pair of reasons.
theorem Before.asymm {v w : Violation} (before : v.Before w) : ¬w.Before v := by
  intro after
  cases before <;> cases after <;> grind [service?, List.lt_asymm, List.lt_irrefl]

theorem Before.ne {v w : Violation} (before : v.Before w) : v ≠ w := by
  rintro rfl
  exact before.asymm before

end Violation

-- A list of the violations with no freedom left.
structure ConfigFile.Lists (c : ConfigFile) (violations : List Violation) : Prop where
  each : ∀ v, v ∈ violations ↔ c.Violates v
  once : violations.Nodup
  ordered : violations.Pairwise Violation.Before

theorem ConfigFile.Lists.unique {c : ConfigFile} {violations others : List Violation}
    (lists : c.Lists violations) (lists' : c.Lists others) : violations = others := by
  have same : violations.Perm others :=
    (List.perm_ext_iff_of_nodup lists.once lists'.once).mpr fun v =>
      (lists.each v).trans (lists'.each v).symm
  refine same.eq_of_pairwise (fun v w _ _ before after => ?_) lists.ordered lists'.ordered
  exact absurd after before.asymm

namespace Binary64

theorem inUnit_iff {x : Binary64} : (zero.le x && x.le one) = true ↔ x.InUnit := by
  rw [Bool.and_eq_true]
  cases x with
  | nan => simp [InUnit, isFinite, le, lt, compare?]
  | infinite negative =>
    cases negative with
    | false => simp [InUnit, isFinite]; decide
    | true => simp [InUnit, isFinite]; decide
  | finite s m e =>
    rw [le_iff isFinite_zero rfl, le_iff rfl isFinite_one, value_zero, value_one, InUnit]
    simp [isFinite]

theorem aboveZero_iff {x : Binary64} : x.isPositive = true ↔ x.AboveZero := by
  cases x with
  | nan => simp [AboveZero, isFinite, isPositive, lt, zero, compare?]
  | infinite negative =>
    cases negative with
    | false => simp [AboveZero, isPositive, lt, zero, compare?]
    | true => simp [AboveZero, isFinite, isPositive, lt, zero, compare?]
  | finite s m e =>
    rw [isPositive, lt_iff isFinite_zero rfl, value_zero, AboveZero]
    simp [isFinite]

end Binary64

theorem Profile.mem_faults_iff {p : Profile} {fault : ProfileFault} :
    fault ∈ p.faults ↔ p.Lacks fault := by
  cases fault <;> simp [faults, Lacks, UInt32.pos_iff_ne_zero]

theorem Profile.ordered_faults (p : Profile) :
    p.faults.Pairwise fun fault fault' => fault.rank < fault'.rank := by
  unfold faults
  split_ifs <;> simp [ProfileFault.rank]

def ServerSpec.faults (earlier : List ServerSpec) (spec : ServerSpec) : List ServerFault :=
  (if (Endpoint.parse? spec.address).isNone then [.unparsed] else [])
  ++ (if spec.weight = 0 then [.zeroWeight] else [])
  ++ (if spec.address ∈ earlier.map (·.address) then [.repeated] else [])

theorem ServerSpec.mem_faults_iff {earlier : List ServerSpec} {spec : ServerSpec}
    {fault : ServerFault} : fault ∈ spec.faults earlier ↔ spec.Fails earlier fault := by
  cases fault <;> simp [faults, Fails]

theorem ServerSpec.ordered_faults (earlier : List ServerSpec) (spec : ServerSpec) :
    (spec.faults earlier).Pairwise fun fault fault' => fault.rank < fault'.rank := by
  unfold faults
  split_ifs <;> simp [ServerFault.rank]

def serverViolations (service : String) (earlier : List ServerSpec) :
    List ServerSpec → List Violation
  | [] => []
  | spec :: rest =>
    (spec.faults earlier).map (.server service earlier.length spec.address)
    ++ serverViolations service (earlier ++ [spec]) rest

def ServiceEntry.violations (service : String) (entry : ServiceEntry) : List Violation :=
  (entry.profiles.entries.flatMap fun (name, p) => p.faults.map (.profile service name))
  ++ serverViolations service [] entry.servers

def Settings.violations (s : Settings) : List Violation :=
  (if Binary64.zero.le s.allowedDegradation && s.allowedDegradation.le .one then []
    else [.degradation s.allowedDegradation])
  ++ (if s.timeoutFactor.isPositive then [] else [.timeoutFactor s.timeoutFactor])

def ConfigFile.violations (c : ConfigFile) : List Violation :=
  c.settings.violations ++ c.services.entries.flatMap fun (name, entry) => entry.violations name

theorem Settings.faults_eq (s : Settings) : s.faults = s.violations.map Violation.fault := by
  unfold faults violations
  split_ifs <;> rfl

theorem serverFaults_eq {service : String} {seen : List String} {earlier servers : List ServerSpec}
    (same : ∀ address, address ∈ seen ↔ address ∈ earlier.map (·.address)) :
    serverFaults service seen servers
      = (serverViolations service earlier servers).map Violation.fault := by
  induction servers generalizing seen earlier with
  | nil => rfl
  | cons spec rest ih =>
    have next : ∀ address, address ∈ spec.address :: seen ↔
        address ∈ (earlier ++ [spec]).map (·.address) := fun address => by
      rw [List.mem_cons, same, List.map_append, List.mem_append, List.map_singleton,
        List.mem_singleton, or_comm]
    rw [serverFaults, serverViolations, List.map_append, ih next]
    refine congrArg (· ++ _) ?_
    simp only [ServerSpec.faults, same]
    split_ifs <;> rfl

theorem ServiceEntry.faults_eq (service : String) (entry : ServiceEntry) :
    entry.faults service = (entry.violations service).map Violation.fault := by
  unfold faults violations
  rw [List.map_append, List.map_flatMap]
  refine congrArg₂ (· ++ ·) ?_ (serverFaults_eq fun address => by simp)
  simp only [List.map_map]
  rfl

theorem ConfigFile.faults_eq (c : ConfigFile) : c.faults = c.violations.map Violation.fault := by
  unfold faults violations
  rw [List.map_append, Settings.faults_eq, List.map_flatMap]
  simp only [ServiceEntry.faults_eq]

theorem Settings.mem_violations_iff {s : Settings} {v : Violation} : v ∈ s.violations ↔
    v = .degradation s.allowedDegradation ∧ ¬s.allowedDegradation.InUnit ∨
    v = .timeoutFactor s.timeoutFactor ∧ ¬s.timeoutFactor.AboveZero := by
  rw [← Binary64.inUnit_iff, ← Binary64.aboveZero_iff, violations]
  generalize (Binary64.zero.le s.allowedDegradation && s.allowedDegradation.le .one) = inside
  generalize s.timeoutFactor.isPositive = positive
  cases inside <;> cases positive <;> simp

theorem mem_serverViolations_iff {service : String} {earlier servers : List ServerSpec}
    {v : Violation} : v ∈ serverViolations service earlier servers ↔
    ∃ before spec after fault, servers = before ++ spec :: after ∧
      spec.Fails (earlier ++ before) fault ∧
      v = .server service (earlier ++ before).length spec.address fault := by
  induction servers generalizing earlier with
  | nil =>
    constructor
    · intro member
      cases member
    · rintro ⟨before, spec, after, fault, split, _⟩
      cases before <;> cases split
  | cons spec rest ih =>
    rw [serverViolations, List.mem_append, ih, List.mem_map]
    constructor
    · rintro (⟨fault, member, rfl⟩ | ⟨before, spec', after, fault, rfl, fails, rfl⟩)
      · refine ⟨[], spec, rest, fault, rfl, ?_, by simp⟩
        rw [List.append_nil]
        exact ServerSpec.mem_faults_iff.mp member
      · refine ⟨spec :: before, spec', after, fault, rfl, ?_, by simp⟩
        rw [List.append_cons]
        exact fails
    · rintro ⟨before, spec', after, fault, split, fails, rfl⟩
      cases before with
      | nil =>
        cases split
        rw [List.append_nil] at fails
        exact .inl ⟨fault, ServerSpec.mem_faults_iff.mpr fails, by simp⟩
      | cons first before =>
        cases split
        rw [List.append_cons] at fails
        exact .inr ⟨before, spec', after, fault, rfl, fails, by simp⟩

theorem ServiceEntry.mem_violations_iff {service : String} {entry : ServiceEntry} {v : Violation} :
    v ∈ entry.violations service ↔
    (∃ name p fault, entry.profiles.get? name = some p ∧ p.Lacks fault ∧
      v = .profile service name fault) ∨
    ∃ earlier spec later fault, entry.servers = earlier ++ spec :: later ∧
      spec.Fails earlier fault ∧ v = .server service earlier.length spec.address fault := by
  rw [violations, List.mem_append, mem_serverViolations_iff, List.mem_flatMap]
  refine or_congr ?_ Iff.rfl
  constructor
  · rintro ⟨⟨name, p⟩, member, violated⟩
    obtain ⟨fault, lacks, rfl⟩ := List.mem_map.mp violated
    have given := SortedMap.get?_eq_some_iff.mpr member
    exact ⟨name, p, fault, given, Profile.mem_faults_iff.mp lacks, rfl⟩
  · rintro ⟨name, p, fault, given, lacks, rfl⟩
    exact ⟨(name, p), SortedMap.get?_eq_some_iff.mp given,
      List.mem_map_of_mem (Profile.mem_faults_iff.mpr lacks)⟩

theorem ServiceEntry.service?_of_mem {service : String} {entry : ServiceEntry} {v : Violation}
    (member : v ∈ entry.violations service) : v.service? = some service := by
  rcases mem_violations_iff.mp member with ⟨_, _, _, _, _, rfl⟩ | ⟨_, _, _, _, _, _, rfl⟩
  · rfl
  · rfl

theorem Settings.service?_of_mem {s : Settings} {v : Violation} (member : v ∈ s.violations) :
    v.service? = none := by
  rcases mem_violations_iff.mp member with ⟨rfl, _⟩ | ⟨rfl, _⟩
  · rfl
  · rfl

theorem ConfigFile.mem_violations_iff {c : ConfigFile} {v : Violation} :
    v ∈ c.violations ↔ c.Violates v := by
  rw [violations, List.mem_append, Settings.mem_violations_iff, List.mem_flatMap]
  constructor
  · rintro ((⟨rfl, outside⟩ | ⟨rfl, low⟩) | ⟨⟨service, entry⟩, member, violated⟩)
    · exact .degradation outside
    · exact .timeoutFactor low
    · have found := SortedMap.get?_eq_some_iff.mpr member
      rcases ServiceEntry.mem_violations_iff.mp violated with
        ⟨name, p, fault, given, lacks, rfl⟩ | ⟨earlier, spec, later, fault, listed, fails, rfl⟩
      · exact .profile found given lacks
      · exact .server found listed fails
  · intro violates
    cases violates with
    | degradation outside => exact .inl (.inl ⟨rfl, outside⟩)
    | timeoutFactor low => exact .inl (.inr ⟨rfl, low⟩)
    | profile found given lacks =>
      exact .inr ⟨_, SortedMap.get?_eq_some_iff.mp found,
        ServiceEntry.mem_violations_iff.mpr (.inl ⟨_, _, _, given, lacks, rfl⟩)⟩
    | server found listed fails =>
      exact .inr ⟨_, SortedMap.get?_eq_some_iff.mp found,
        ServiceEntry.mem_violations_iff.mpr (.inr ⟨_, _, _, _, listed, fails, rfl⟩)⟩

theorem Settings.ordered_violations (s : Settings) : s.violations.Pairwise Violation.Before := by
  unfold violations
  split_ifs <;> simp [Violation.Before.settings]

theorem ordered_serverViolations (service : String) (earlier servers : List ServerSpec) :
    (serverViolations service earlier servers).Pairwise Violation.Before := by
  induction servers generalizing earlier with
  | nil => exact .nil
  | cons spec rest ih =>
    refine List.pairwise_append.mpr ⟨?_, ih _, fun v first w later => ?_⟩
    · exact List.pairwise_map.mpr ((spec.ordered_faults earlier).imp .server)
    · obtain ⟨fault, _, rfl⟩ := List.mem_map.mp first
      obtain ⟨before, spec', _, fault', _, _, rfl⟩ := mem_serverViolations_iff.mp later
      refine .servers ?_
      simp only [List.length_append, List.length_singleton]
      omega

theorem ServiceEntry.ordered_violations (service : String) (entry : ServiceEntry) :
    (entry.violations service).Pairwise Violation.Before := by
  refine List.pairwise_append.mpr
    ⟨List.pairwise_flatMap.mpr ⟨?_, ?_⟩, ordered_serverViolations service [] entry.servers, ?_⟩
  · rintro ⟨name, p⟩ _
    exact List.pairwise_map.mpr (p.ordered_faults.imp .profile)
  · refine entry.profiles.ascending.imp fun {a b} less v first w second => ?_
    obtain ⟨fault, _, rfl⟩ := List.mem_map.mp first
    obtain ⟨fault', _, rfl⟩ := List.mem_map.mp second
    exact .profiles (Text.bytes_lt_iff.mpr less)
  · intro v first w second
    obtain ⟨⟨name, p⟩, _, violated⟩ := List.mem_flatMap.mp first
    obtain ⟨fault, _, rfl⟩ := List.mem_map.mp violated
    obtain ⟨_, _, _, _, _, _, rfl⟩ := mem_serverViolations_iff.mp second
    exact .profilesFirst

theorem ConfigFile.ordered_violations (c : ConfigFile) :
    c.violations.Pairwise Violation.Before := by
  refine List.pairwise_append.mpr
    ⟨c.settings.ordered_violations, List.pairwise_flatMap.mpr ⟨?_, ?_⟩, ?_⟩
  · rintro ⟨service, entry⟩ _
    exact entry.ordered_violations service
  · refine c.services.ascending.imp fun {a b} less v first w second => ?_
    exact .services (ServiceEntry.service?_of_mem first) (ServiceEntry.service?_of_mem second)
      (Text.bytes_lt_iff.mpr less)
  · intro v first w second
    obtain ⟨⟨service, entry⟩, _, violated⟩ := List.mem_flatMap.mp second
    exact .settingsFirst (Settings.service?_of_mem first) (ServiceEntry.service?_of_mem violated)

theorem ConfigFile.lists_violations (c : ConfigFile) : c.Lists c.violations where
  each _ := mem_violations_iff
  once := c.ordered_violations.imp Violation.Before.ne
  ordered := c.ordered_violations

theorem Settings.faults_eq_nil_iff {s : Settings} :
    s.faults = [] ↔ s.allowedDegradation.InUnit ∧ s.timeoutFactor.AboveZero := by
  rw [faults_eq, List.map_eq_nil_iff, List.eq_nil_iff_forall_not_mem]
  simp [mem_violations_iff, forall_and]

theorem Profile.faults_eq_nil_iff {p : Profile} : p.faults = [] ↔ p.Sound := by
  rw [List.eq_nil_iff_forall_not_mem]
  simp only [mem_faults_iff]
  constructor
  · intro none
    refine ⟨UInt32.pos_iff_ne_zero.mpr (none .noTries),
      UInt64.pos_iff_ne_zero.mpr (none .noRequestTimeout), ?_⟩
    by_cases fails : p.maxFails = 0
    · exact .inl fails
    · exact .inr (UInt64.pos_iff_ne_zero.mpr fun zero => none .noFailTimeout ⟨zero, fails⟩)
  · intro sound fault lacks
    cases fault with
    | noTries => exact UInt32.pos_iff_ne_zero.mp sound.tries lacks
    | noRequestTimeout => exact UInt64.pos_iff_ne_zero.mp sound.requestTimeout lacks
    | noFailTimeout =>
      rcases sound.failTimeout with never | positive
      · exact lacks.2 never
      · exact UInt64.pos_iff_ne_zero.mp positive lacks.1

theorem ServiceEntry.faults_eq_nil_iff {service : String} {entry : ServiceEntry} :
    entry.faults service = [] ↔
      (∀ name p, entry.profiles.get? name = some p → p.Sound) ∧
      (∀ spec ∈ entry.servers, spec.Sound) ∧ (entry.servers.map (·.address)).Nodup := by
  rw [faults, List.append_eq_nil_iff, List.flatMap_eq_nil_iff, serverFaults_eq_nil_iff]
  refine and_congr ?_ (by simp)
  simp only [List.map_eq_nil_iff, Profile.faults_eq_nil_iff, Prod.forall,
    ← SortedMap.get?_eq_some_iff]

theorem ConfigFile.faults_eq_nil_iff {c : ConfigFile} : c.faults = [] ↔ c.Sound := by
  rw [faults, List.append_eq_nil_iff, List.flatMap_eq_nil_iff, Settings.faults_eq_nil_iff]
  simp only [ServiceEntry.faults_eq_nil_iff, Prod.forall, ← SortedMap.get?_eq_some_iff]
  constructor
  · rintro ⟨⟨part, factor⟩, services⟩
    exact ⟨part, factor, fun service entry found => (services service entry found).1,
      fun service entry found => (services service entry found).2⟩
  · rintro ⟨part, factor, profiles, servers⟩
    exact ⟨⟨part, factor⟩, fun service entry found =>
      ⟨profiles service entry found, servers service entry found⟩⟩

def sortByName {α : Type} (name : α → String) (l : List α) : List α :=
  l.mergeSort fun a b => decide (name a ≤ name b)

-- The pass as it is made over maps that give what they hold in an order of their own: the names are
-- put in order before anything is looked at.
def ConfigFile.faultsAlong (c : ConfigFile) (names : List String)
    (profiles : String → List (String × Profile)) : List ConfigFault :=
  c.settings.faults ++ (sortByName id names).flatMap fun service =>
    match c.services.get? service with
    | none => []
    | some entry =>
      ((sortByName Prod.fst (profiles service)).flatMap fun (name, p) =>
        p.faults.map (.profile service name))
      ++ serverFaults service [] entry.servers

-- Orders in which the maps of a configuration may come.
structure ConfigFile.Walk (c : ConfigFile) (names : List String)
    (profiles : String → List (String × Profile)) : Prop where
  services : names.Perm c.services.keys
  profiles : ∀ service entry, c.services.get? service = some entry →
    (profiles service).Perm entry.profiles.entries

theorem pairwise_sortByName {α : Type} (name : α → String) (l : List α) :
    (sortByName name l).Pairwise fun a b => name a ≤ name b := by
  refine (List.pairwise_mergeSort (fun a b c first second => ?_) (fun a b => ?_) l).imp
    of_decide_eq_true
  · exact decide_eq_true
      (String.le_trans (of_decide_eq_true first) (of_decide_eq_true second))
  · rw [Bool.or_eq_true, decide_eq_true_iff, decide_eq_true_iff]
    exact String.le_total _ _

theorem sortByName_eq {α : Type} {name : α → String} {l m : List α} (perm : l.Perm m)
    (ascending : m.Pairwise fun a b => name a < name b) : sortByName name l = m := by
  have sorted : (sortByName name l).Perm m := (List.mergeSort_perm l _).trans perm
  have distinct : (m.map name).Nodup :=
    List.pairwise_map.mpr (ascending.imp String.ne_of_lt)
  refine sorted.eq_of_pairwise (fun a b member member' le le' => ?_) (pairwise_sortByName name l)
    (ascending.imp fun less => String.not_lt.mp (String.lt_asymm less))
  exact List.inj_on_of_nodup_map distinct (sorted.mem_iff.mp member) member'
    (String.le_antisymm le le')

theorem ConfigFile.faultsAlong_eq {c : ConfigFile} {names : List String}
    {profiles : String → List (String × Profile)} (walk : c.Walk names profiles) :
    c.faultsAlong names profiles = c.faults := by
  have keys : sortByName id names = c.services.keys :=
    sortByName_eq walk.services (List.pairwise_map.mpr c.services.ascending)
  rw [faultsAlong, faults, keys, SortedMap.keys, List.flatMap_map]
  congr 1
  refine List.flatMap_congr fun ⟨service, entry⟩ member => ?_
  have found := SortedMap.get?_eq_some_iff.mpr member
  have entries := sortByName_eq (walk.profiles service entry found) entry.profiles.ascending
  simp only [found, entries]
  rfl

theorem ConfigFile.faults_are_violations (config : ConfigFile) :
    (config.faults = [] ↔ config.Sound) ∧
    (∃! violations, config.Lists violations) ∧
    (∀ violations, config.Lists violations → config.faults = violations.map Violation.fault) ∧
    ∀ names profiles, config.Walk names profiles →
      config.faultsAlong names profiles = config.faults := by
  have lists := config.lists_violations
  refine ⟨faults_eq_nil_iff, ⟨_, lists, fun others lists' => lists'.unique lists⟩,
    fun violations lists' => ?_, fun names profiles walk => faultsAlong_eq walk⟩
  rw [lists'.unique lists]
  exact config.faults_eq

-- Seven faults in two services, whichever of the services comes first.
theorem ConfigFile.seven_faults_in_order :
    let backend : ServiceEntry := {
      profiles := .ofList [("slow", { requestTimeoutMs := 0 }), ("default", { maxTries := 0 })]
      servers := [{ address := "10.0.0.1:8080" }, { address := "10.0.0.1:8080", weight := 0 }] }
    let archive : ServiceEntry := { servers := [{ address := "bad address" }] }
    let config : ConfigFile := {
      settings := { allowedDegradation := .ofRatio false 3 2, timeoutFactor := .zero }
      services := .ofList [("backend", backend), ("archive", archive)] }
    let profiles := fun name => if name = "backend" then backend.profiles.entries.reverse else []
    config.faults = [.degradation (.ofRatio false 3 2), .timeoutFactor .zero,
      .address "archive" "bad address", .profile "backend" "default" .noTries,
      .profile "backend" "slow" .noRequestTimeout, .zeroWeight "backend" "10.0.0.1:8080",
      .duplicate "backend" "10.0.0.1:8080"] ∧
    ¬config.Sound ∧ config.faultsAlong ["backend", "archive"] profiles = config.faults := by
  intro backend archive config profiles
  have some : config.faults ≠ [] := by
    decide +kernel +revert
  have entries : config.services.entries = [("archive", archive), ("backend", backend)] := by
    decide +kernel +revert
  constructor
  · decide +kernel +revert
  obtain ⟨sound, _, _, along⟩ := config.faults_are_violations
  refine ⟨fun holds => some (sound.mpr holds), along _ _ ⟨?_, fun service entry found => ?_⟩⟩
  · rw [SortedMap.keys, entries]
    exact List.Perm.swap "archive" "backend" []
  · have member := SortedMap.get?_eq_some_iff.mp found
    rw [entries] at member
    rcases List.mem_pair.mp member with same | same
    · cases same
      exact .nil
    · cases same
      exact List.reverse_perm _

end Balancing
