import Balancing.Proofs.Service.Moment
import Mathlib.Data.List.FinRange
import Mathlib.Data.List.ReduceOption
import Mathlib.Data.Multiset.UnionInter

namespace Balancing

-- What a server and a descriptor have in common when one fits the other.
structure Identity where
  address : String
  weight : Nat
  rack : Option String
  datacenter : Option String
  deriving DecidableEq, Repr

def Server.identity (s : Server) : Identity := ⟨s.address, s.weight.toNat, s.rack, s.datacenter⟩

def ServerSpec.identity (spec : ServerSpec) : Identity :=
  ⟨spec.address, max spec.weight.toNat 1, spec.rack, spec.datacenter.map Text.lowercase⟩

theorem Server.isOf_iff_identity (s : Server) (spec : ServerSpec) :
    s.isOf spec = true ↔ s.identity = spec.identity := by
  simp only [isOf, identity, ServerSpec.identity, Identity.mk.injEq, Bool.and_eq_true,
    decide_eq_true_eq, ← toNat_atLeastOne, UInt32.toNat_inj, and_assoc]

namespace Service

section

variable {α β : Type} {p : β → Bool}

theorem takeFirst_map (f : α → β) (l : List α) :
    takeFirst p (l.map f) = (takeFirst (fun a => p (f a)) l).map fun (found, others) =>
      (f found, others.map f) := by
  induction l with
  | nil => rfl
  | cons a l ih =>
    rw [List.map_cons, takeFirst, takeFirst]
    split
    · rfl
    · rw [ih, Option.map_map, Option.map_map]
      rfl

theorem takeFirst_none {l : List β} (nothing : takeFirst p l = none) : ∀ b ∈ l, ¬p b := by
  induction l with
  | nil => simp
  | cons b l ih =>
    rw [takeFirst] at nothing
    split at nothing
    · cases nothing
    · rename_i fails
      exact List.forall_mem_cons.mpr ⟨fails, ih (Option.map_eq_none_iff.mp nothing)⟩

end

-- Places of the old list, at most one for each descriptor: the server there fits the descriptor.
abbrev Fitting {ι : Type} (old : ι → Server) (specs : List ServerSpec) (places : List (Option ι)) :
    Prop :=
  List.Forall₂ (fun place spec => ∀ i ∈ place, (old i).identity = spec.identity) places specs

-- Where a server of the new list comes from.
inductive Source {ι : Type} (old : ι → Server) (fresh : Server → Prop) :
    Server → Option ι → Prop where
  | kept (i : ι) : Source old fresh (old i) (some i)
  | built {server : Server} (new : fresh server) : Source old fresh server none

structure Matching (old : List Server) (specs : List ServerSpec)
    (places : List (Option (Fin old.length))) : Prop where
  fits : Fitting old.get specs places
  -- No old server is used twice.
  once : places.reduceOption.Nodup

-- The identities that both lists have, each as often as both have it.
def common (old : List Server) (specs : List ServerSpec) : Multiset Identity :=
  (specs.map ServerSpec.identity : Multiset Identity) ∩ (old.map Server.identity : List Identity)

-- A server that fits uses up one of the common identities, whichever of those that fit it is.
theorem common_cons_of_fits {old rest : List Server} {s : Server} {spec : ServerSpec}
    {specs : List ServerSpec} (fits : s.isOf spec = true) (perm : old.Perm (s :: rest)) :
    common old (spec :: specs) = spec.identity ::ₘ common rest specs := by
  have same : s.identity = spec.identity := (Server.isOf_iff_identity s spec).mp fits
  have removed : (old.map Server.identity : Multiset Identity)
      = spec.identity ::ₘ (rest.map Server.identity : List Identity) := by
    rw [← same]
    exact Multiset.coe_eq_coe.mpr (perm.map Server.identity)
  simp only [common, removed, List.map_cons, ← Multiset.cons_coe, Multiset.cons_inter_distrib]

theorem common_cons_of_nobody {old : List Server} {spec : ServerSpec} {specs : List ServerSpec}
    (nobody : ∀ s ∈ old, ¬s.isOf spec = true) : common old (spec :: specs) = common old specs := by
  have absent : spec.identity ∉ (old.map Server.identity : Multiset Identity) := by
    intro there
    obtain ⟨s, listed, same⟩ := List.mem_map.mp (Multiset.mem_coe.mp there)
    exact nobody s listed ((Server.isOf_iff_identity s spec).mpr same)
  unfold common
  rw [List.map_cons, ← Multiset.cons_coe, Multiset.cons_inter_of_neg _ absent]

theorem Source.imp {ι : Type} {old : ι → Server} {fresh fresh' : Server → Prop} {server : Server}
    {place : Option ι} (weaker : ∀ s, fresh s → fresh' s) (source : Source old fresh server place) :
    Source old fresh' server place := by
  cases source with
  | kept i => exact .kept i
  | built new => exact .built (weaker server new)

theorem identities_sublist {ι : Type} {old : ι → Server} {places : List (Option ι)}
    {specs : List ServerSpec} (fits : Fitting old specs places) :
    (places.reduceOption.map fun i => (old i).identity).Sublist
      (specs.map ServerSpec.identity) := by
  induction fits with
  | nil => exact .slnil
  | @cons place spec places specs first rest ih =>
    cases place with
    | none => exact ih.cons _
    | some i =>
      have same : (old i).identity = spec.identity := first i rfl
      simp only [List.reduceOption_cons_of_some, List.map_cons, same]
      exact ih.cons_cons _

-- No matching keeps more servers than there are identities in common.
theorem Matching.length_le {old : List Server} {specs : List ServerSpec}
    {places : List (Option (Fin old.length))} (matching : Matching old specs places) :
    places.reduceOption.length ≤ (common old specs).card := by
  let identity (i : Fin old.length) : Identity := (old.get i).identity
  let kept : Multiset (Fin old.length) := places.reduceOption
  have new : kept.map identity ≤ (specs.map ServerSpec.identity : List Identity) :=
    (identities_sublist matching.fits).subperm
  have everywhere : kept ≤ (List.finRange old.length : List (Fin old.length)) :=
    matching.once.subperm fun i _ => List.mem_finRange i
  have olds : kept.map identity ≤ (old.map Server.identity : List Identity) := by
    calc kept.map identity ≤ (List.finRange old.length : Multiset _).map identity :=
          Multiset.map_le_map everywhere
      _ = (old.map Server.identity : List Identity) := by
          have each := congrArg (List.map Server.identity) (List.map_get_finRange old)
          rw [List.map_map] at each
          exact congrArg Multiset.ofList each
  calc places.reduceOption.length = kept.card := rfl
    _ = (kept.map identity).card := (Multiset.card_map ..).symm
    _ ≤ (common old specs).card := Multiset.card_le_card (Multiset.le_inter new olds)

variable {windows : Windows} {slowStart : Option SlowStart} {nextId : Nat} {r : Roster}
  {specs : List ServerSpec}

-- The places are taken out of `free` one by one; what is common goes with them.
theorem roster_matching {ι : Type} {old : ι → Server} {free : List ι}
    (made : roster windows slowStart (free.map old) nextId specs = .ok r) :
    ∃ places others, (places.reduceOption ++ others).Perm free ∧ r.left = others.map old ∧
      Fitting old specs places ∧
      List.Forall₂ (Source old fun server => nextId ≤ server.id ∧
        server.IsFresh windows slowStart) r.servers places ∧
      places.reduceOption.length = (common (free.map old) specs).card := by
  induction specs generalizing free nextId r with
  | nil =>
    rw [roster] at made
    cases made
    refine ⟨[], free, .refl _, rfl, .nil, .nil, ?_⟩
    simp [common]
  | cons spec specs ih =>
    cases found : takeFirst (fun i => (old i).isOf spec) free with
    | some pair =>
      obtain ⟨i, rest⟩ := pair
      obtain ⟨fits, perm⟩ := takeFirst_spec found
      rw [roster, takeFirst_map, found] at made
      obtain ⟨r', later, same⟩ := bind_ok_iff.mp made
      cases same
      obtain ⟨places, others, parts, left, fitting, sources, count⟩ := ih later
      refine ⟨some i :: places, others, ?_, left, .cons ?_ fitting, .cons (.kept i) sources, ?_⟩
      · exact (parts.cons i).trans perm.symm
      · intro j taken
        cases taken
        exact (Server.isOf_iff_identity ..).mp fits
      · rw [common_cons_of_fits fits (perm.map old), Multiset.card_cons, ← count,
          List.reduceOption_cons_of_some, List.length_cons]
    | none =>
      rw [roster, takeFirst_map, found] at made
      obtain ⟨server, built, made⟩ := bind_ok_iff.mp made
      obtain ⟨r', later, same⟩ := bind_ok_iff.mp made
      cases same
      obtain ⟨places, others, parts, left, fitting, sources, count⟩ := ih later
      have number : server.id = nextId := (Server.build_ok built).1
      refine ⟨none :: places, others, parts, left, .cons ?_ fitting, .cons ?_ ?_, ?_⟩
      · intro j taken
        cases taken
      · exact .built ⟨number.ge, Server.isFresh_of_build built⟩
      · apply sources.imp
        intro server place
        apply Source.imp
        intro s new
        exact ⟨Nat.le_of_succ_le new.1, new.2⟩
      · rw [common_cons_of_nobody (List.forall_mem_map.mpr (takeFirst_none found)), ← count,
          List.reduceOption_cons_of_none]

theorem slowStart?_eq (s : Service) (now : Instant) (default : Profile) :
    s.slowStart? now default = if s.servers ≠ [] ∧ 0 < default.slowStartSeconds then
      some ⟨now, default.slowStart⟩ else none := by
  cases servers : s.servers with
  | nil => simp [slowStart?, servers]
  | cons server others => simp [slowStart?, servers]

-- The first free server that fits is taken for each descriptor in turn, and no other choice keeps
-- more of the old servers. What is kept is the old server as it was; the others are new.
theorem update_keeps_most {s s' : Service} {now : Instant} {profiles : Profiles}
    (updated : s.update now profiles specs = .ok s') :
    let default := s'.profile Profile.defaultName
    let slowStart := if s.servers ≠ [] ∧ 0 < default.slowStartSeconds then
      some ⟨now, default.slowStart⟩ else none
    List.Forall₂ (fun server spec => server.identity = spec.identity) s'.servers specs ∧
    ∃ places others,
      Matching s.servers specs places ∧
      List.Forall₂ (Source s.servers.get fun server => s.nextId ≤ server.id ∧
        server.IsFresh s.windows slowStart) s'.servers places ∧
      places.reduceOption.length = (common s.servers specs).card ∧
      (∀ matched, Matching s.servers specs matched →
        matched.reduceOption.length ≤ places.reduceOption.length) ∧
      (places.reduceOption ++ others).Perm (List.finRange s.servers.length) ∧
      s'.retired = s.retired ++ others.map s.servers.get ∧
      (s.Numbered → s'.Numbered) := by
  intro default slowStart
  have numbered : s.Numbered → s'.Numbered := fun numbered => numbered_update numbered updated
  unfold update at updated
  obtain ⟨r, made, same⟩ := bind_ok_iff.mp updated
  cases same
  have same : ((withDefault profiles).get? Profile.defaultName).getD .standard = default := by
    simp [default, profile, profile?]
  have placed : roster s.windows slowStart ((List.finRange s.servers.length).map s.servers.get)
      s.nextId specs = .ok r := by
    rw [List.map_get_finRange, ← made, same, slowStart?_eq]
  obtain ⟨places, others, parts, left, fits, sources, count⟩ := roster_matching placed
  rw [List.map_get_finRange] at count
  have once : places.reduceOption.Nodup :=
    (List.nodup_append.mp (parts.nodup_iff.mpr (List.nodup_finRange _))).1
  refine ⟨?_, places, others, ⟨fits, once⟩, sources, count, ?_, parts, ?_, numbered⟩
  · exact (roster_isOf made).imp fun server spec => (Server.isOf_iff_identity server spec).mp
  · intro matched matching
    exact matching.length_le.trans_eq count.symm
  · show s.retired ++ r.left = _
    rw [left]

-- Three of five descriptors meet old servers: the third one in other letter case and with a weight
-- that counts the same, and two that are alike. A third one alike finds nobody left.
theorem repeated_descriptors_kept :
    let m := (Moment.create "shop" none false {} 0).run [.update .empty
      [{ address := "a:80" }, { address := "a:80" },
       { address := "b:80", weight := 0, datacenter := some "dc1" }], .acquire []]
    let profiles : Profiles := SortedMap.empty.insert "default" { slowStartSeconds := 30 }
    let specs : List ServerSpec := [{ address := "b:80", datacenter := some "DC1" },
      { address := "a:80" }, { address := "c:80" }, { address := "a:80" }, { address := "a:80" }]
    ∃ s', m.service.update 7 profiles specs = .ok s' ∧
      s'.servers.map (fun server => (server.id, server.requests, server.slowStart.isSome))
        = [(2, 0, false), (0, 1, false), (3, 0, true), (1, 0, false), (4, 0, true)] ∧
      ∃ places, Matching m.service.servers specs places ∧ places.reduceOption.length = 3 := by
  intro m profiles specs
  have evaluated : (m.service.update 7 profiles specs).toOption.map (fun s' =>
      s'.servers.map fun server => (server.id, server.requests, server.slowStart.isSome))
        = some [(2, 0, false), (0, 1, false), (3, 0, true), (1, 0, false), (4, 0, true)] ∧
      (common m.service.servers specs).card = 3 := by
    decide +kernel +revert
  obtain ⟨found, three⟩ := evaluated
  cases updated : m.service.update 7 profiles specs with
  | error e =>
    rw [updated] at found
    cases found
  | ok s' =>
    rw [updated] at found
    obtain ⟨_, places, _, matching, _, count, _⟩ := update_keeps_most updated
    exact ⟨s', rfl, Option.some.inj found, places, matching, count.trans three⟩

end Service

end Balancing
