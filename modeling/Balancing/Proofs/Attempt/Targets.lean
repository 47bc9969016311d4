import Balancing.Proofs.Attempt.Rewriting
import Balancing.Proofs.Config.Faults
import Balancing.Proofs.Uri.Spelling

namespace Balancing

variable {ω τ : Type}

def Others.Keeping (others : Others ω) : Prop :=
  ∀ w service clock, (others w service clock).1.1.servers.map Server.origin
    = service.servers.map Server.origin

namespace Moment

theorem origins_after (m : Moment) {action : Action}
    (kept : ∀ profiles specs, action ≠ .update profiles specs) :
    (m.after action).service.servers.map Server.origin = m.service.servers.map Server.origin := by
  cases action with
  | acquire excluded => exact Service.map_acquire Server.fixed_origin ..
  | release => exact Service.map_release Server.fixed_origin ..
  | update profiles specs => exact absurd rfl (kept profiles specs)
  | enable => rfl
  | pass => exact Service.map_wake Server.fixed_origin.activate ..

theorem origins_run (m : Moment) {actions : List Action}
    (fixed : ∀ profiles specs, Action.update profiles specs ∉ actions) :
    (m.run actions).service.servers.map Server.origin = m.service.servers.map Server.origin := by
  induction actions generalizing m with
  | nil => rfl
  | cons action actions ih =>
    have first := origins_after m fun profiles specs same =>
      fixed profiles specs (same ▸ List.mem_cons_self)
    exact (ih (m.after action) fun profiles specs member =>
      fixed profiles specs (List.mem_cons_of_mem _ member)).trans first

end Moment

theorem Others.keeping_doing {choose : ω → Service → Instant → List Action × ω}
    (fixed : ∀ w service clock profiles specs,
      Action.update profiles specs ∉ (choose w service clock).1) :
    (Others.doing choose).Keeping := fun w service clock =>
  Moment.origins_run ⟨service, clock, []⟩ (fixed w service clock)

namespace ServiceScene

variable {scene : ServiceScene}

-- A static look hands out a server of the list that has not been tried.
theorem resolve_static_ok {tries : Nat} {request : Request} {target : Target}
    (found : (resolve false tries request scene).1 = .ok target) :
    ∃ i server, scene.service.servers[i]? = some server ∧ i ∉ scene.tried ∧
      target = aim request (.of i server) ∧
      (resolve false tries request scene).2.1
        = { scene with service := (scene.service.acquire scene.clock scene.tried).2 } := by
  cases enabled : scene.service.enabled with
  | false => simp [resolve, enabled] at found
  | true =>
    rcases resolve_enabled enabled tries request with
      ⟨refused, _⟩ | ⟨i, server, _, there, _, outside, aimed, left⟩
    · rw [refused] at found
      cases found
    · rw [aimed] at found
      cases found
      exact ⟨i, server, there, outside, rfl, left⟩

end ServiceScene

namespace Attempt

theorem tried_settle {src : Source ServiceScene Suspension} {name : String} {adaptive : Bool}
    (serves : src.Serves name adaptive) {idempotent : Bool} {budget : Budget} {progress : Progress}
    {target : Target} {entry : Entry} (aimed : target.entry = some entry) {result : TimedResponse}
    {scene : ServiceScene}
    (again : (settle src idempotent budget progress target result scene).again = true) :
    (settle src idempotent budget progress target result scene).source.tried
      = entry.index :: scene.tried := by
  simp only [settle, serves.completed, serves.decided, ServiceScene.completed, aimed] at again ⊢
  cases left : (budget.charge result.elapsed).canRetry with
  | false => simp [left] at again
  | true =>
    rw [left, Bool.true_and] at again
    obtain ⟨allowed, kept⟩ := serves.mayRetry result.response idempotent
      (scene.released name entry (src.isServerError result.response) result.elapsed.micros
        adaptive).1
    simp only [if_true, kept] at again ⊢
    cases again
    simp only [ServiceScene.decided, aimed]
    rfl

section

variable {others : Others ω} {plan : Plan (ServiceScene × ω) τ Suspension}
  {src : Source ServiceScene Suspension} {name : String} {adaptive : Bool}
  (shared : plan.source = src.among others) {s : ServiceScene × ω}

include shared

theorem tried_make_among (serves : src.Serves name adaptive) {budget : Budget}
    {progress : Progress} {target : Target} {entry : Entry} (aimed : target.entry = some entry)
    {t : τ} (again : (make plan budget progress target s t).again = true) :
    (make plan budget progress target s t).source.1.tried = entry.index :: s.1.tried := by
  have started : (src.among others).started target s = ((), s, []) := by
    simp only [Source.among, serves.started]
  simp only [make, shared, started] at again ⊢
  generalize (plan.send _ t).1 = reply at again ⊢
  have kept : ((src.among others).passed reply.pause s).1.tried = s.1.tried := by
    simp only [Source.among, serves.passed]
    rfl
  rw [← kept]
  generalize (src.among others).passed reply.pause s = waited at again ⊢
  obtain ⟨scene, w⟩ := waited
  rw [settle_among] at again ⊢
  dsimp only at again ⊢
  exact tried_settle serves aimed again

end

-- A state in which each of the earlier attempts has been at another place of one and the same list.
structure Visited (origins : List Origin) (earlier : List (Made (ServiceScene × ω) τ Suspension))
    (s : ServiceScene × ω) : Prop where
  origins : s.1.service.servers.map Server.origin = origins
  nodup : s.1.tried.Nodup
  recorded : s.1.tried.map some = (earlier.map Made.place?).reverse

-- An attempt at a place of the list, by what the server there is built with.
structure Visits (origins : List Origin) (request : Request)
    (made : Made (ServiceScene × ω) τ Suspension) (i : Nat) (server : Server) : Prop where
  found : origins[i]? = some server.origin
  goes : made.target = ServiceScene.aim request (.of i server)

section

variable {others : Others ω} {plan : Plan (ServiceScene × ω) τ Suspension}
  {src : Source ServiceScene Suspension} {name : String}
  (shared : plan.source = src.among others) (serves : src.Serves name false)
  (keeping : others.Keeping) {origins : List Origin}

include shared serves keeping

theorem origins_make {budget : Budget} {progress : Progress} {target : Target} {t : τ}
    {s : ServiceScene × ω} (same : s.1.service.servers.map Server.origin = origins) :
    (make plan budget progress target s t).source.1.service.servers.map Server.origin
      = origins := by
  let holds (s : ServiceScene × ω) : Prop := s.1.service.servers.map Server.origin = origins
  show holds (make plan budget progress target s t).source
  refine holds_make_among shared serves budget progress target t ?_ ?_ ?_ ?_ same
  · intro s same
    exact (keeping ..).trans same
  · intro pause s same
    exact (Service.map_wake Server.fixed_origin.activate ..).trans same
  · intro entry result s _ same
    exact (Service.map_release Server.fixed_origin ..).trans same
  · intro tried s same
    exact same

-- One attempt of a visit, and what it leaves if another look follows.
theorem attempt_of_visited {first : ServiceScene × ω} {t : τ} {k : Nat}
    {made : Made (ServiceScene × ω) τ Suspension}
    (kth : (course plan first t).made[k]? = some made)
    (visited : Visited origins ((course plan first t).made.take k)
      ((course plan first t).before first k)) :
    ∃ i server, Visits origins plan.request made i server ∧
      some i ∉ ((course plan first t).made.take k).map Made.place? ∧
      (made.again = true →
        Visited origins ((course plan first t).made.take (k + 1)) made.source) := by
  obtain ⟨budget, progress, target, s', notes, t', resolved, rfl⟩ := look_of_made _ _ _ _ k made kth
  obtain ⟨tries, resolve⟩ := serves.resolve
  generalize (course plan first t).before first k = s at resolved visited
  -- Others have been at work before the look, but not on the list or on what has been tried.
  have tried : (others.act s).1.tried = s.1.tried := rfl
  have same : (others.act s).1.service.servers.map Server.origin = origins :=
    (keeping ..).trans visited.origins
  have looked := resolved
  rw [shared] at looked
  simp only [Source.among, resolve] at looked
  obtain ⟨i, server, found, outside, aimed, left⟩ :=
    ServiceScene.resolve_static_ok (congrArg Prod.fst looked)
  have scene : s'.1 = { (others.act s).1 with service :=
      ((others.act s).1.service.acquire (others.act s).1.clock (others.act s).1.tried).2 } := by
    rw [← left]
    exact (congrArg (fun found => found.2.1.1) looked).symm
  have earlier : some i ∉ ((course plan first t).made.take k).map Made.place? := by
    rw [← List.mem_reverse, ← visited.recorded]
    intro member
    rw [tried] at outside
    exact outside (by simpa using member)
  refine ⟨i, server, ⟨?_, aimed⟩, earlier, fun again => ?_⟩
  · rw [← same, List.getElem?_map, found]
    rfl
  · subst aimed
    have added := tried_make_among shared serves rfl again
    rw [scene] at added
    refine ⟨origins_make shared serves keeping ?_, ?_, ?_⟩
    · rw [scene]
      exact (Service.map_acquire Server.fixed_origin ..).trans same
    · rw [added]
      exact List.nodup_cons.mpr ⟨outside, visited.nodup⟩
    · rw [added, List.take_add_one, kth, List.map_append, List.reverse_append, ← visited.recorded]
      rfl

theorem visits_of_made {first : ServiceScene × ω} (untried : first.1.tried = [])
    (same : first.1.service.servers.map Server.origin = origins) (t : τ) :
    let h := course plan first t
    ∀ k made, h.made[k]? = some made → ∃ i server, Visits origins plan.request made i server ∧
      some i ∉ (h.made.take k).map Made.place? := by
  intro h k made kth
  have visited : ∀ k, k < h.looks → Visited origins (h.made.take k) (h.before first k) := by
    refine before_induction (fun k s => Visited origins (h.made.take k) s) ⟨same, ?_, ?_⟩ ?_
    · rw [untried]
      exact List.nodup_nil
    · rw [untried]
      rfl
    · intro h k made kth again visited
      obtain ⟨_, _, _, _, next⟩ := attempt_of_visited shared serves keeping kth visited
      exact next again
  obtain ⟨i, server, visits, earlier, _⟩ :=
    attempt_of_visited shared serves keeping kth (visited k (lt_looks_of_made kth))
  exact ⟨i, server, visits, earlier⟩

end

end Attempt

-- Where a call goes.
def Call.endpoint? (c : Call) : Option Endpoint :=
  match c.request.uri.scheme, c.request.uri.authority with
  | some scheme, some authority => some ⟨scheme, authority⟩
  | _, _ => none

def endpointAt (specs : List ServerSpec) (i : Nat) : Option Endpoint :=
  specs[i]?.bind fun spec => Endpoint.parse? spec.address

-- A server in the list has the endpoint of the descriptor in its place.
theorem Moment.endpointAt_of_listed {m : Moment} (listed : m.Listed)
    (addressed : m.service.Addressed) {i : Nat} {server : Server}
    (found : (m.service.servers.map Server.origin)[i]? = some server.origin) :
    i < m.specs.length ∧ endpointAt m.specs i = some server.endpoint := by
  rw [List.getElem?_map] at found
  obtain ⟨old, there, same⟩ := Option.map_eq_some_iff.mp found
  have inside := (List.getElem?_eq_some_iff.mp there).1
  have within : i < m.specs.length := listed.length_eq ▸ inside
  have address : old.address = m.specs[i].address := by
    have addresses := congrArg (·[i]?) (addresses_of_listed listed)
    simpa [List.getElem?_map, there, within] using addresses
  have parsed : Endpoint.parse? old.address = some old.endpoint :=
    addressed old (List.mem_of_getElem? there)
  have endpoint : old.endpoint = server.endpoint := congrArg Origin.endpoint same
  refine ⟨within, ?_⟩
  rw [endpointAt, List.getElem?_eq_getElem within, Option.bind_some, ← address, parsed, endpoint]

-- No two descriptors stand for the same backend, in any case of letters.
def Apart (specs : List ServerSpec) : Prop :=
  specs.Pairwise fun spec spec' => ∀ e e', Endpoint.parse? spec.address = some e →
    Endpoint.parse? spec'.address = some e' → e.alike e' = false

theorem Endpoint.alike_comm (e e' : Endpoint) : e.alike e' = e'.alike e := by
  simp only [alike, Text.sameAscii, eq_comm]

theorem alike_of_apart {specs : List ServerSpec} (apart : Apart specs) {i j : Nat} (other : i ≠ j)
    {e e' : Endpoint} (there : endpointAt specs i = some e)
    (there' : endpointAt specs j = some e') : e.alike e' = false := by
  obtain ⟨spec, found, parsed⟩ := Option.bind_eq_some_iff.mp there
  obtain ⟨spec', found', parsed'⟩ := Option.bind_eq_some_iff.mp there'
  obtain ⟨inside, rfl⟩ := List.getElem?_eq_some_iff.mp found
  obtain ⟨inside', rfl⟩ := List.getElem?_eq_some_iff.mp found'
  have pairs := List.pairwise_iff_getElem.mp apart
  rcases Nat.lt_or_gt_of_ne other with less | more
  · exact pairs i j inside inside' less e e' parsed parsed'
  · rw [Endpoint.alike_comm]
    exact pairs j i inside' inside more e' e parsed' parsed

-- Addresses that name no scheme and no location, and that differ in more than the case of letters.
theorem apart_of_plain {specs : List ServerSpec}
    (plain : ∀ spec ∈ specs, Endpoint.Plain spec.address)
    (differ : specs.Pairwise fun spec spec' => Text.sameAscii spec.address spec'.address = false) :
    Apart specs := by
  refine differ.imp_of_mem fun member member' other e e' parsed parsed' => ?_
  rw [← Bool.not_eq_true,
    Endpoint.alike_iff_of_plain (plain _ member) (plain _ member') parsed parsed', other]
  exact Bool.false_ne_true

namespace Attempt

section

variable {others : Others ω} {plan : Plan (ServiceScene × ω) τ Suspension}
  {src : Source ServiceScene Suspension} {name : String}
  (shared : plan.source = src.among others) (serves : src.Serves name false)
  (keeping : others.Keeping) {m : Moment} (listed : m.Listed) (addressed : m.service.Addressed)
  {first : ServiceScene × ω} (untried : first.1.tried = []) (started : first.1.service = m.service)

include shared serves keeping listed addressed untried started

theorem endpoint?_of_made {t : τ} {k : Nat} {made : Made (ServiceScene × ω) τ Suspension}
    (kth : (course plan first t).made[k]? = some made) :
    ∃ i, made.place? = some i ∧ i < m.specs.length ∧
      made.call.endpoint? = endpointAt m.specs i ∧
      some i ∉ ((course plan first t).made.take k).map Made.place? := by
  obtain ⟨i, server, visits, earlier⟩ := visits_of_made shared serves keeping untried
    (congrArg (fun s : Service => s.servers.map Server.origin) started) t k made kth
  obtain ⟨within, there⟩ := Moment.endpointAt_of_listed listed addressed visits.found
  have target : made.target.request = { plan.request with uri := ⟨some server.endpoint.scheme,
      some server.endpoint.authority, some (plan.request.uri.location.getD .root)⟩ } := by
    rw [visits.goes]
    rfl
  obtain ⟨_, sent⟩ := sends_of_made kth target
  refine ⟨i, ?_, within, ?_, earlier⟩
  · rw [Made.place?, visits.goes]
    rfl
  · rw [there, Call.endpoint?, sent]

theorem endpoints_of_calls (t : τ) :
    ∃ places : List Nat, places.Nodup ∧ (∀ i ∈ places, i < m.specs.length) ∧
      (callsOf (start plan first t).log).map Call.endpoint? = places.map (endpointAt m.specs) := by
  have each (k : Nat) (made : Made (ServiceScene × ω) τ Suspension)
      (kth : (course plan first t).made[k]? = some made) :=
    endpoint?_of_made shared serves keeping listed addressed untried started kth
  have distinct : ((course plan first t).made.map Made.place?).Nodup := by
    refine nodup_of_not_mem_take fun k place kth => ?_
    rw [List.getElem?_map] at kth
    obtain ⟨made, there, rfl⟩ := Option.map_eq_some_iff.mp kth
    obtain ⟨i, same, _, _, fresh⟩ := each k made there
    rw [← List.map_take, same]
    exact fresh
  let place (made : Made (ServiceScene × ω) τ Suspension) : Nat := made.place?.getD 0
  have told (made : Made (ServiceScene × ω) τ Suspension)
      (member : made ∈ (course plan first t).made) :
      made.place? = some (place made) ∧ place made < m.specs.length ∧
        made.call.endpoint? = endpointAt m.specs (place made) := by
    obtain ⟨k, kth⟩ := List.mem_iff_getElem?.mp member
    obtain ⟨i, same, within, endpoint, _⟩ := each k made kth
    have placed : place made = i := by
      show made.place?.getD 0 = i
      rw [same, Option.getD_some]
    rw [placed]
    exact ⟨same, within, endpoint⟩
  refine ⟨(course plan first t).made.map place, ?_, ?_, ?_⟩
  · have same : (course plan first t).made.map Made.place?
        = (course plan first t).made.map (some ∘ place) :=
      List.map_congr_left fun made member => (told made member).1
    rw [same, ← List.map_map] at distinct
    exact distinct.of_map some
  · intro i member
    obtain ⟨made, visited, rfl⟩ := List.mem_map.mp member
    exact (told made visited).2.1
  · have calls : callsOf (start plan first t).log = (course plan first t).made.map (·.call) :=
      callsOf_run ..
    rw [calls, List.map_map, List.map_map]
    exact List.map_congr_left fun made member => (told made member).2.2

end

-- Endpoints to which one request over these servers has been sent, one after the other.
structure SpreadOver (specs : List ServerSpec) (endpoints : List (Option Endpoint)) : Prop where
  places : ∃ places : List Nat, places.Nodup ∧ (∀ i ∈ places, i < specs.length) ∧
    endpoints = places.map (endpointAt specs)
  differ : Apart specs → endpoints.Pairwise fun sent sent' => ∀ e e',
    sent = some e → sent' = some e' → e.alike e' = false

-- What the addresses of these servers stand for, and where requests over them go.
structure Targeted (ω τ : Type) (specs : List ServerSpec) : Prop where
  distinct : (specs.map (·.address)).Nodup
  parsed : ∀ spec ∈ specs, ∃ e, Endpoint.parse? spec.address = some e
  spelled : ∀ address e,
    Endpoint.parse? address = some e ↔ ∃ head tail, e.Spelled head tail address
  unschemed : ∀ address, Endpoint.namesScheme address.toList = false →
    Endpoint.parse? ("http://" ++ address) = Endpoint.parse? address
  apart : (∀ spec ∈ specs, Endpoint.Plain spec.address) →
    (specs.Pairwise fun spec spec' => Text.sameAscii spec.address spec'.address = false) →
      Apart specs
  requests : ∀ (name : String) (datacenter : Option String) (allowRemote : Bool)
    (windows : Windows) (clock : Instant) (actions : List Action) (others : Others ω) (w : ω)
    (words : Words) (profile : String) (request : Request) (idempotent : Bool) (context : Context)
    (factor : Binary64) (send : Transport τ) (t : τ) (src : Source ServiceScene Suspension),
    let m := (Moment.create name datacenter allowRemote windows clock).run actions
    let plan : Plan (ServiceScene × ω) τ Suspension :=
      ⟨src.among others, send, context, request, idempotent, factor⟩
    let first : ServiceScene × ω := (.opening m.service m.clock words, w)
    Source.ofService? m.service profile false = some src → m.specs = specs → others.Keeping →
      SpreadOver specs ((callsOf (start plan first t).log).map Call.endpoint?)

theorem targets_of_accepted (config : ConfigFile) (accepted : config.faults = []) (service : String)
    (entry : ServiceEntry) (found : config.services.get? service = some entry) :
    Targeted ω τ entry.servers := by
  obtain ⟨_, services⟩ := List.append_eq_nil_iff.mp accepted
  have listed := List.flatMap_eq_nil_iff.mp services _ (SortedMap.mem_entries_of_get? found)
  obtain ⟨sound, nodup, _⟩ := serverFaults_eq_nil_iff.mp (List.append_eq_nil_iff.mp listed).2
  refine ⟨nodup, fun spec member => Option.isSome_iff_exists.mp (sound spec member).parsed,
    fun _ _ => Endpoint.parse?_eq_some_iff, fun _ => Endpoint.parse?_http_append,
    apart_of_plain, ?_⟩
  intro name datacenter allowRemote windows clock actions others w words profile request idempotent
    context factor send t src m plan first made asked keeping
  have fits : m.Listed := Moment.listed_run (Moment.listed_create ..) actions
  have fresh := Moment.addressed_create name datacenter allowRemote windows clock
  have addressed : m.service.Addressed := Moment.addressed_run fresh actions
  have shared : plan.source = src.among others := rfl
  have untried : first.1.tried = [] := rfl
  have started : first.1.service = m.service := rfl
  have visited := endpoints_of_calls shared (Source.serves_of_made made) keeping fits addressed
    untried started t
  rw [asked] at visited
  refine ⟨visited, fun apart => ?_⟩
  obtain ⟨places, distinct, _, same⟩ := visited
  rw [same, List.pairwise_map]
  exact distinct.imp fun other e e' there there' => alike_of_apart apart other there there'

-- Twenty seconds pass before every step of the request.
theorem retry_sent_to_other_backend :
    let specs : List ServerSpec := [{ address := "a:80" }, { address := "b:80" }]
    let config : ConfigFile := { services := .ofList [("shop", { servers := specs })] }
    let m := (Moment.create "shop" none false {} 0).run [.update .empty specs]
    let choose : Unit → Service → Instant → List Action × Unit := fun _ _ _ =>
      ([.pass 20000000000], ())
    let get : Request := { method := "GET", uri := ⟨none, some "shop", some .root⟩ }
    let send : Transport Unit := fun _ _ => (⟨⟨{ status := 503 }, .zero⟩, 0⟩, ())
    config.faults = [] ∧ ∃ src, Source.ofService? m.service "default" false = some src ∧
      let plan : Plan (ServiceScene × Unit) Unit Suspension :=
        ⟨src.among (.doing choose), send, ⟨"shop", "default"⟩, get, get.isIdempotent false, .one⟩
      let first : ServiceScene × Unit := (.opening m.service m.clock default, ())
      let endpoints := (callsOf (start plan first ()).log).map Call.endpoint?
      endpoints = [some ⟨"http", "a:80"⟩, some ⟨"http", "b:80"⟩] ∧
        endpoints.Pairwise fun sent sent' => ∀ e e',
          sent = some e → sent' = some e' → e.alike e' = false := by
  intro specs config m choose get send
  have fits : (Source.ofService? m.service "default" false).isSome := by decide +kernel
  let plan : Plan (ServiceScene × Unit) Unit Suspension :=
    ⟨((Source.ofService? m.service "default" false).get fits).among (.doing choose), send,
      ⟨"shop", "default"⟩, get, get.isIdempotent false, .one⟩
  let first : ServiceScene × Unit := (.opening m.service m.clock default, ())
  have facts : config.faults = [] ∧ config.services.get? "shop" = some { servers := specs } ∧
      m.specs = specs ∧ (callsOf (start plan first ()).log).map Call.endpoint?
        = [some ⟨"http", "a:80"⟩, some ⟨"http", "b:80"⟩] := by
    decide +kernel +revert
  obtain ⟨accepted, found, asked, endpoints⟩ := facts
  have plain : ∀ spec ∈ specs, Endpoint.Plain spec.address := by
    simp [specs, Endpoint.Plain, Uri.endsAuthority]
  have differ : specs.Pairwise fun spec spec' =>
      Text.sameAscii spec.address spec'.address = false := by
    simp [specs, Text.sameAscii]
  have targeted : Targeted Unit Unit specs :=
    targets_of_accepted config accepted "shop" { servers := specs } found
  have keeping : (Others.doing choose).Keeping := Others.keeping_doing fun _ _ _ _ _ => by
    simp [choose]
  have spread := targeted.requests "shop" none false {} 0 [.update .empty specs] (.doing choose) ()
    default "default" get (get.isIdempotent false) ⟨"shop", "default"⟩ .one send () _
    (Option.some_get fits).symm asked keeping
  exact ⟨accepted, _, (Option.some_get fits).symm, endpoints,
    spread.differ (targeted.apart plain differ)⟩

-- The same address twice, once with its scheme.
theorem retry_sent_to_same_backend :
    let specs : List ServerSpec := [{ address := "a:80" }, { address := "http://a:80" }]
    let config : ConfigFile := { services := .ofList [("shop", { servers := specs })] }
    let m := (Moment.create "shop" none false {} 0).run [.update .empty specs]
    let get : Request := { method := "GET", uri := ⟨none, some "shop", some .root⟩ }
    let send : Transport Unit := fun _ _ => (⟨⟨{ status := 503 }, .zero⟩, 0⟩, ())
    config.faults = [] ∧ specs.map (fun spec => Endpoint.parse? spec.address)
        = [some ⟨"http", "a:80"⟩, some ⟨"http", "a:80"⟩] ∧
      ∃ src, Source.ofService? m.service "default" false = some src ∧
        let plan : Plan ServiceScene Unit Suspension :=
          ⟨src, send, ⟨"shop", "default"⟩, get, get.isIdempotent false, .one⟩
        (callsOf (start plan (opening m default) ()).log).map Call.endpoint?
          = [some ⟨"http", "a:80"⟩, some ⟨"http", "a:80"⟩] := by
  intro specs config m get send
  have fits : (Source.ofService? m.service "default" false).isSome := by decide +kernel
  have facts : config.faults = [] ∧ specs.map (fun spec => Endpoint.parse? spec.address)
        = [some ⟨"http", "a:80"⟩, some ⟨"http", "a:80"⟩] ∧
      (callsOf (start ⟨(Source.ofService? m.service "default" false).get fits, send,
        ⟨"shop", "default"⟩, get, get.isIdempotent false, .one⟩ (opening m default) ()).log).map
          Call.endpoint? = [some ⟨"http", "a:80"⟩, some ⟨"http", "a:80"⟩] := by
    decide +kernel +revert
  exact ⟨facts.1, facts.2.1, _, (Option.some_get fits).symm, facts.2.2⟩

end Attempt

end Balancing
