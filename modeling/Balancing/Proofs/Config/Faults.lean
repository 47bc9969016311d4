import Balancing.Config.Validation
import Mathlib.Data.List.Basic

namespace Balancing

-- A descriptor that a server can be built from as it stands.
structure ServerSpec.Sound (spec : ServerSpec) : Prop where
  parsed : (Endpoint.parse? spec.address).isSome = true
  weighs : spec.weight ≠ 0

theorem serverFaults_eq_nil_iff {service : String} {seen : List String} {specs : List ServerSpec} :
    serverFaults service seen specs = [] ↔
      (∀ spec ∈ specs, spec.Sound) ∧ (specs.map (·.address)).Nodup ∧
        ∀ spec ∈ specs, spec.address ∉ seen := by
  induction specs generalizing seen with
  | nil => simp [serverFaults]
  | cons spec specs ih =>
    have first : (if (Endpoint.parse? spec.address).isNone
          then [ConfigFault.address service spec.address] else [])
        ++ (if spec.weight = 0 then [.zeroWeight service spec.address] else []) = []
        ↔ spec.Sound := by
      rw [List.append_eq_nil_iff]
      constructor
      · rintro ⟨address, weight⟩
        refine ⟨?_, fun zero => ?_⟩
        · cases parsed : Endpoint.parse? spec.address with
          | none => simp [parsed] at address
          | some endpoint => rfl
        · simp [zero] at weight
      · intro sound
        obtain ⟨endpoint, parsed⟩ := Option.isSome_iff_exists.mp sound.parsed
        exact ⟨by simp [parsed], if_neg sound.weighs⟩
    have last : (if spec.address ∈ seen then [ConfigFault.duplicate service spec.address] else [])
        = [] ↔ spec.address ∉ seen := by
      by_cases again : spec.address ∈ seen <;> simp [again]
    rw [serverFaults, List.append_eq_nil_iff, List.append_eq_nil_iff, first, last, ih,
      List.forall_mem_cons, List.forall_mem_cons, List.map_cons, List.nodup_cons]
    simp only [List.mem_cons, not_or, List.mem_map, not_exists, not_and]
    constructor
    · rintro ⟨⟨sound, new⟩, rest, nodup, others⟩
      exact ⟨⟨sound, rest⟩, ⟨fun other member => (others other member).1, nodup⟩, new,
        fun other member => (others other member).2⟩
    · rintro ⟨⟨sound, rest⟩, ⟨once, nodup⟩, new, others⟩
      exact ⟨⟨sound, new⟩, rest, nodup, fun other member =>
        ⟨once other member, others other member⟩⟩

section

variable {config : ConfigFile} (accepted : config.faults = [])

include accepted

theorem ConfigFile.faults_entry {name : String} {entry : ServiceEntry}
    (found : config.services.get? name = some entry) : entry.faults name = [] := by
  obtain ⟨_, services⟩ := List.append_eq_nil_iff.mp accepted
  exact List.flatMap_eq_nil_iff.mp services _ (SortedMap.mem_entries_of_get? found)

theorem ConfigFile.sound_of_accepted {name : String} {entry : ServiceEntry}
    (found : config.services.get? name = some entry) : ∀ spec ∈ entry.servers, spec.Sound :=
  (serverFaults_eq_nil_iff.mp (List.append_eq_nil_iff.mp (faults_entry accepted found)).2).1

theorem ConfigFile.faults_profile {name : String} {entry : ServiceEntry}
    (found : config.services.get? name = some entry) {profileName : String} {profile : Profile}
    (given : entry.profiles.get? profileName = some profile) : profile.faults = [] := by
  have profiles := (List.append_eq_nil_iff.mp (faults_entry accepted found)).1
  have none := List.flatMap_eq_nil_iff.mp profiles _ (SortedMap.mem_entries_of_get? given)
  exact List.map_eq_nil_iff.mp none

-- An infinite factor is positive, so it is let through; it counts as one later.
theorem ConfigFile.factor_of_accepted :
    config.settings.timeoutFactor.isFactor ∨ config.settings.timeoutFactor = .infinite false := by
  obtain ⟨settings, _⟩ := List.append_eq_nil_iff.mp accepted
  have none := (List.append_eq_nil_iff.mp settings).2
  have positive : config.settings.timeoutFactor.isPositive = true := by
    by_contra not
    rw [if_neg not] at none
    cases none
  generalize config.settings.timeoutFactor = factor at positive
  cases factor with
  | nan => cases positive
  | infinite negative =>
    cases negative with
    | false => exact .inr rfl
    | true => cases positive
  | finite negative m e =>
    left
    rw [Binary64.isFactor, positive]
    rfl

end

theorem Profile.positive_of_accepted {p : Profile} (accepted : p.faults = []) :
    p.maxTries ≠ 0 ∧ p.requestTimeoutMs ≠ 0 := by
  simp only [faults, List.append_eq_nil_iff] at accepted
  obtain ⟨⟨tries, timeout⟩, _⟩ := accepted
  constructor
  · intro zero
    rw [if_pos zero] at tries
    cases tries
  · intro zero
    rw [if_pos zero] at timeout
    cases timeout

end Balancing
