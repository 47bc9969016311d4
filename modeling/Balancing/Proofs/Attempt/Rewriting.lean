import Balancing.Proofs.Attempt.Rounds
import Balancing.Proofs.Service.Moment

namespace Balancing

namespace Uri

-- All that is relied on when parts are put together: it succeeds when none of them is missing.
def Assembles (assemble : Option String → Option String → Option Location → Option Uri) : Prop :=
  ∀ scheme authority location, assemble (some scheme) (some authority) (some location)
    = some ⟨some scheme, some authority, some location⟩

theorem assembles_ofParts? : Assembles ofParts? := fun _ _ _ => rfl

variable {assemble : Option String → Option String → Option Location → Option Uri}

-- No part is ever missing, so the URI as it was is never fallen back on.
theorem retargetBy_of_assembles (assembles : Assembles assemble) (u : Uri)
    (scheme authority : String) :
    u.retargetBy assemble scheme authority
      = ⟨some scheme, some authority, some (u.location.getD .root)⟩ := by
  unfold retargetBy
  rw [assembles]
  rfl

theorem retargetBy_retargetBy (assembles : Assembles assemble) (u : Uri)
    (scheme authority scheme' authority' : String) :
    (u.retargetBy assemble scheme authority).retargetBy assemble scheme' authority'
      = u.retargetBy assemble scheme' authority' := by
  simp only [retargetBy_of_assembles assembles, Option.getD_some]

end Uri

-- Of all targets the last one counts.
theorem Request.retarget_foldl (r : Request) (earlier : List Endpoint) (last : Endpoint) :
    (earlier.foldl retarget r).retarget last = r.retarget last := by
  induction earlier generalizing r with
  | nil => rfl
  | cons first rest ih =>
    have once : (r.retarget first).retarget last = r.retarget last := rfl
    exact (ih (r.retarget first)).trans once

def Entry.Addressed (e : Entry) : Prop := Endpoint.parse? e.address = some e.endpoint

def Server.Addressed (s : Server) : Prop := Endpoint.parse? s.address = some s.endpoint

theorem Server.fixed_addressed : Fixed Addressed :=
  fixed_origin.comp fun o => Endpoint.parse? o.address = some o.endpoint

theorem Server.addressed_of_build {id : Nat} {spec : ServerSpec} {windows : Windows}
    {slowStart : Option SlowStart} {s : Server} (built : build id spec windows slowStart = .ok s) :
    s.Addressed := by
  obtain ⟨endpoint, parsed, origin, _⟩ := origin_of_build built
  simp only [Server.origin, Origin.mk.injEq] at origin
  obtain ⟨_, address, same, _⟩ := origin
  unfold Addressed
  rw [address, same]
  exact parsed

namespace Service

variable {s s' : Service}

def Addressed (s : Service) : Prop := ∀ server ∈ s.servers, server.Addressed

theorem Addressed.congr (addressed : s.Addressed)
    (same : s'.servers.map Server.Addressed = s.servers.map Server.Addressed) : s'.Addressed := by
  intro server member
  have listed : server.Addressed ∈ s'.servers.map Server.Addressed := List.mem_map_of_mem member
  rw [same] at listed
  obtain ⟨old, there, equal⟩ := List.mem_map.mp listed
  rw [← equal]
  exact addressed old there

theorem roster_addressed {windows : Windows} {slowStart : Option SlowStart} {free : List Server}
    {nextId : Nat} {specs : List ServerSpec} {r : Roster}
    (made : roster windows slowStart free nextId specs = .ok r)
    (old : ∀ server ∈ free, server.Addressed) : ∀ server ∈ r.servers, server.Addressed := by
  induction specs generalizing free nextId r with
  | nil =>
    rw [roster] at made
    cases made
    simp
  | cons spec specs ih =>
    rcases roster_cons made with ⟨s, rest, r', taken, later, rfl⟩ | ⟨s, r', built, later, rfl⟩
    · have perm := (takeFirst_spec taken).2
      have kept := fun server member => old server (perm.mem_iff.mpr member)
      exact List.forall_mem_cons.mpr ⟨kept s List.mem_cons_self,
        ih later fun server member => kept server (List.mem_cons_of_mem s member)⟩
    · exact List.forall_mem_cons.mpr ⟨Server.addressed_of_build built, ih later old⟩

theorem addressed_update (addressed : s.Addressed) {now : Instant} {profiles : Profiles}
    {specs : List ServerSpec} (updated : s.update now profiles specs = .ok s') : s'.Addressed := by
  obtain ⟨r, slowStart, made, rfl⟩ := update_ok updated
  exact roster_addressed made addressed

theorem addressed_acquired (addressed : s.Addressed) {now : Instant} {excluded : List Nat}
    {entry : Entry} (acquired : s.acquire now excluded = (some entry, s')) : entry.Addressed := by
  rcases acquire_cases s now excluded with nothing | ⟨i, server, found, lent⟩
  · rw [nothing] at acquired
    cases acquired
  · rw [lent] at acquired
    cases acquired
    exact addressed server (List.mem_of_getElem? found)

theorem addressed_drawn (addressed : s.Addressed) {γ : Type} {ticket : UInt64 → γ → UInt64 × γ}
    {count : Nat} {g : γ} {drawn : List Entry × γ}
    (went : s.acquireAdaptive ticket count g = .ok drawn) {entry : Entry}
    (member : entry ∈ drawn.1) : entry.Addressed := by
  obtain ⟨server, found, made, _⟩ := mem_acquireAdaptive went member
  rw [made]
  exact addressed server (List.mem_of_getElem? found)

end Service

namespace Moment

variable {m : Moment}

theorem addressed_create (name : String) (datacenter : Option String) (allowRemote : Bool)
    (windows : Windows) (clock : Instant) :
    (create name datacenter allowRemote windows clock).service.Addressed := by
  intro server member
  cases member

theorem addressed_after (addressed : m.service.Addressed) (action : Action) :
    (m.after action).service.Addressed := by
  cases action with
  | acquire excluded => exact addressed.congr (Service.map_acquire Server.fixed_addressed ..)
  | release profile entry isError micros adaptive =>
    exact addressed.congr (Service.map_release Server.fixed_addressed ..)
  | update profiles specs =>
    unfold after
    dsimp only
    split
    · rename_i service updated
      exact Service.addressed_update addressed updated
    · exact addressed
  | enable enabled => exact addressed
  | pass nanoseconds => exact addressed.congr (Service.map_wake Server.fixed_addressed.activate ..)

theorem addressed_run (addressed : m.service.Addressed) (actions : List Action) :
    (m.run actions).service.Addressed := by
  induction actions generalizing m with
  | nil => exact addressed
  | cons action actions ih => exact ih (addressed_after addressed action)

end Moment

variable {ω τ : Type}

-- Others that do whatever can be done to a service, one thing after the other.
def Others.doing (choose : ω → Service → Instant → List Action × ω) : Others ω :=
  fun w service clock =>
    let (actions, w) := choose w service clock
    let m := (Moment.mk service clock []).run actions
    ((m.service, m.clock), w)

namespace ServiceScene

variable {scene : ServiceScene}

-- Servers in the list and entries in the order, all with endpoints that fit their addresses.
structure Addressed (scene : ServiceScene) : Prop where
  service : scene.service.Addressed
  order : ∀ entries, scene.order = some entries → ∀ entry ∈ entries, entry.Addressed

theorem addressed_withOrder (addressed : scene.Addressed) (tries : Nat) :
    ∀ entry ∈ (scene.withOrder tries).1, entry.Addressed := by
  unfold withOrder
  split
  · rename_i entries order
    exact addressed.order entries order
  · split
    · rename_i went
      exact fun entry member => Service.addressed_drawn addressed.service went member
    · exact List.forall_mem_nil _

theorem addressed_resolve (addressed : scene.Addressed) (adaptive : Bool) (tries : Nat)
    (request : Request) :
    let looked := resolve adaptive tries request scene
    looked.2.1.Addressed ∧
      ∀ target, looked.1 = .ok target → ∃ entry, target = aim request entry ∧ entry.Addressed := by
  cases enabled : scene.service.enabled with
  | false =>
    simp only [resolve, enabled, Bool.not_false, if_true]
    exact ⟨addressed, fun target found => by cases found⟩
  | true =>
    cases adaptive with
    | true =>
      have ahead := addressed_withOrder addressed tries
      have kept : (scene.withOrder tries).2.service.Addressed := by
        rw [(withOrder_keeps tries scene).1]
        exact addressed.service
      have left : (scene.nextAdaptive tries).2.Addressed := by
        refine ⟨kept, ?_⟩
        rintro entries ⟨⟩ entry member
        exact ahead entry (List.mem_of_mem_tail member)
      have first : (scene.nextAdaptive tries).1 = (scene.withOrder tries).1.head? := rfl
      simp only [resolve, enabled, Bool.not_true, Bool.false_eq_true, if_false, if_true]
      cases found : (scene.nextAdaptive tries).1 with
      | none => exact ⟨left, fun target found => by cases found⟩
      | some entry =>
        refine ⟨left, ?_⟩
        rintro target ⟨⟩
        exact ⟨entry, rfl, ahead entry (List.mem_of_mem_head? (first.symm.trans found))⟩
    | false =>
      cases acquired : scene.service.acquire scene.clock scene.tried with
      | mk found service =>
        have kept : service.Addressed := by
          have same := Service.map_acquire Server.fixed_addressed scene.service scene.clock
            scene.tried
          rw [acquired] at same
          exact addressed.service.congr same
        simp only [resolve, enabled, nextStatic, acquired, Bool.not_true, Bool.false_eq_true,
          if_false]
        cases found with
        | none => exact ⟨⟨kept, addressed.order⟩, fun target found => by cases found⟩
        | some entry =>
          refine ⟨⟨kept, addressed.order⟩, ?_⟩
          rintro target ⟨⟩
          exact ⟨entry, rfl, Service.addressed_acquired addressed.service acquired⟩

end ServiceScene

namespace Attempt

variable {choose : ω → Service → Instant → List Action × ω} {s : ServiceScene × ω}

theorem addressed_act (addressed : s.1.Addressed) :
    ((Others.doing choose).act s).1.Addressed :=
  ⟨Moment.addressed_run addressed.service _, addressed.order⟩

section

variable {plan : Plan (ServiceScene × ω) τ Suspension} {src : Source ServiceScene Suspension}
  {name : String} {adaptive : Bool} (shared : plan.source = src.among (.doing choose))
  (serves : src.Serves name adaptive)

include shared serves

theorem addressed_look (addressed : s.1.Addressed) :
    let looked := plan.source.resolve plan.request s
    looked.2.1.1.Addressed ∧ ∀ target, looked.1 = .ok target →
      ∃ entry, target = ServiceScene.aim plan.request entry ∧ entry.Addressed := by
  obtain ⟨tries, resolve⟩ := serves.resolve
  rw [shared]
  simp only [Source.among, resolve]
  exact ServiceScene.addressed_resolve (addressed_act addressed) adaptive tries plan.request

theorem addressed_make (budget : Budget) (progress : Progress) (target : Target) (t : τ)
    (addressed : s.1.Addressed) : (make plan budget progress target s t).source.1.Addressed := by
  let holds (s : ServiceScene × ω) : Prop := s.1.Addressed
  show holds (make plan budget progress target s t).source
  refine holds_make_among shared serves budget progress target t ?_ ?_ ?_ ?_ addressed
  · intro s addressed
    exact addressed_act addressed
  · intro pause s addressed
    have same := Service.map_wake Server.fixed_addressed.activate s.1.service (s.1.clock + pause)
    exact ⟨addressed.service.congr same, addressed.order⟩
  · intro entry result s _ addressed
    refine ⟨?_, addressed.order⟩
    exact addressed.service.congr (Service.map_release Server.fixed_addressed ..)
  · intro tried s addressed
    exact ⟨addressed.service, addressed.order⟩

theorem addressed_before (addressed : s.1.Addressed) (t : τ) :
    let h := course plan s t
    ∀ k, k < h.looks → (h.before s k).1.Addressed := by
  intro h
  refine before_induction (fun _ (s : ServiceScene × ω) => s.1.Addressed) addressed ?_
  intro h k made kth again before
  obtain ⟨budget, progress, target, looked, notes, t', resolved, rfl⟩ :=
    look_of_made _ _ _ _ k made kth
  have kept := (addressed_look shared serves before).1
  rw [resolved] at kept
  exact addressed_make shared serves budget progress target t' kept

theorem aimed_of_made (addressed : s.1.Addressed) (t : τ) :
    let h := course plan s t
    ∀ (k : Nat) made, h.made[k]? = some made → ∃ entry,
      made.target = ServiceScene.aim plan.request entry ∧ entry.Addressed := by
  intro h k made kth
  have before := addressed_before shared serves addressed t k (lt_looks_of_made kth)
  obtain ⟨budget, progress, target, looked, notes, t', resolved, rfl⟩ :=
    look_of_made _ _ _ _ k made kth
  exact (addressed_look shared serves before).2 target (congrArg Prod.fst resolved)

end

variable {σ ε : Type}

-- The caller's request under another URI and the times of the attempt.
def Sends (plan : Plan σ τ ε) (uri : Uri) (made : Made σ τ ε) : Prop :=
  ∃ timeout, made.call.request = { plan.request with
    uri
    timeout := some timeout
    connectTimeout := plan.source.connectTimeout.or plan.request.connectTimeout }

theorem sends_of_made {plan : Plan σ τ ε} {s : σ} {t : τ} {k : Nat} {made : Made σ τ ε}
    (kth : (course plan s t).made[k]? = some made) {uri : Uri}
    (target : made.target.request = { plan.request with uri }) : Sends plan uri made := by
  obtain ⟨budget, progress, found, looked, notes, t', _, rfl⟩ := look_of_made _ _ _ _ k made kth
  refine ⟨budget.attemptTimeout plan.source.requestTimeout plan.factor, ?_⟩
  show outbound plan budget found = _
  unfold outbound
  rw [show found.request = { plan.request with uri } from target]

theorem target_external {profile : Profile} {plan : Plan Instant τ Suspension}
    (external : Source.external? plan.request profile = some plan.source) {clock : Instant} {t : τ}
    {k : Nat} {made : Made Instant τ Suspension}
    (kth : (course plan clock t).made[k]? = some made) : made.target.request = plan.request := by
  obtain ⟨total, _, hooks⟩ := Option.map_eq_some_iff.mp external
  obtain ⟨budget, progress, target, looked, notes, t', resolved, rfl⟩ :=
    look_of_made _ _ _ _ k made kth
  rw [← hooks] at resolved
  cases resolved
  rfl

-- An attempt that goes to a server. The new URI has parts of the caller's and of this server's, and
-- none of an earlier attempt's.
structure SendsTo (assemble : Option String → Option String → Option Location → Option Uri)
    (plan : Plan σ τ ε) (made : Made σ τ ε) (entry : Entry) : Prop where
  target : made.target = ServiceScene.aim plan.request entry
  endpoint : Endpoint.parse? made.target.address = some entry.endpoint
  sends : Sends plan ⟨some entry.endpoint.scheme, some entry.endpoint.authority,
    some (plan.request.uri.location.getD .root)⟩ made
  assembled : assemble (some entry.endpoint.scheme) (some entry.endpoint.authority)
    (some (plan.request.uri.location.getD .root)) = some made.call.request.uri
  retargeted : plan.request.uri.retargetBy assemble entry.endpoint.scheme entry.endpoint.authority
    = made.call.request.uri

theorem sendsTo_of_made {assemble : Option String → Option String → Option Location → Option Uri}
    (assembles : Uri.Assembles assemble) {plan : Plan σ τ ε} {s : σ} {t : τ} {k : Nat}
    {made : Made σ τ ε} (kth : (course plan s t).made[k]? = some made) {entry : Entry}
    (aimed : made.target = ServiceScene.aim plan.request entry) (addressed : entry.Addressed) :
    SendsTo assemble plan made entry := by
  have sends : Sends plan ⟨some entry.endpoint.scheme, some entry.endpoint.authority,
      some (plan.request.uri.location.getD .root)⟩ made := by
    refine sends_of_made kth ?_
    rw [aimed]
    rfl
  obtain ⟨timeout, request⟩ := sends
  refine ⟨aimed, ?_, ⟨timeout, request⟩, ?_, ?_⟩
  · rw [aimed]
    exact addressed
  · rw [assembles, request]
  · rw [Uri.retargetBy_of_assembles assembles, request]

theorem only_target_rewritten (request : Request) (idempotent : Bool) (context : Context)
    (factor : Binary64) (send : Transport τ) (t : τ)
    (assemble : Option String → Option String → Option Location → Option Uri) :
    Uri.Assembles assemble →
    (∀ (name : String) (datacenter : Option String) (allowRemote : Bool) (windows : Windows)
      (clock : Instant) (actions : List Action) (choose : ω → Service → Instant → List Action × ω)
      (w : ω) (words : Words) (profile : String) (adaptive : Bool)
      (src : Source ServiceScene Suspension),
      let m := (Moment.create name datacenter allowRemote windows clock).run actions
      let plan : Plan (ServiceScene × ω) τ Suspension :=
        ⟨src.among (.doing choose), send, context, request, idempotent, factor⟩
      let first : ServiceScene × ω := (.opening m.service m.clock words, w)
      Source.ofService? m.service profile adaptive = some src →
      ∀ (k : Nat) made, (course plan first t).made[k]? = some made →
        ∃ entry, SendsTo assemble plan made entry) ∧
    (∀ (profile : Profile) (src : Source Instant Suspension) (clock : Instant),
      let plan : Plan Instant τ Suspension := ⟨src, send, context, request, idempotent, factor⟩
      Source.external? request profile = some src →
      ∀ (k : Nat) made, (course plan clock t).made[k]? = some made → Sends plan request.uri made) ∧
    (∀ (earlier : List Endpoint) (last : Endpoint),
      (earlier.foldl Request.retarget request).retarget last = request.retarget last) ∧
    ∀ scheme authority scheme' authority',
      (request.uri.retargetBy assemble scheme authority).retargetBy assemble scheme' authority'
        = request.uri.retargetBy assemble scheme' authority' := by
  intro assembles
  refine ⟨?_, ?_, Request.retarget_foldl request, Uri.retargetBy_retargetBy assembles request.uri⟩
  · intro name datacenter allowRemote windows clock actions choose w words profile adaptive src m
      plan first made k attempt kth
    have fresh := Moment.addressed_create name datacenter allowRemote windows clock
    have addressed : first.1.Addressed :=
      ⟨Moment.addressed_run fresh actions, fun entries order => by cases order⟩
    obtain ⟨entry, aimed, fits⟩ := aimed_of_made rfl (Source.serves_of_made made) addressed t
      k attempt kth
    exact ⟨entry, sendsTo_of_made assembles kth aimed fits⟩
  · intro profile src clock plan made k attempt kth
    exact sends_of_made kth (target_external made kth)

-- While the first answer is awaited, another server takes the second place.
theorem path_and_query_sent_twice :
    let updates : List Action := [.update .empty [{ address := "a:80" }, { address := "b:80" }]]
    let m := (Moment.create "shop" none false {} 0).run updates
    let choose : Nat → Service → Instant → List Action × Nat := fun n _ _ =>
      (if n = 1 then [.update .empty [{ address := "a:80" }, { address := "https://[::1]:8443/x" }]]
        else [], n + 1)
    let location : Location := ⟨"/p", some "q=1"⟩
    let get : Request := { method := "GET", uri := ⟨none, some "shop", some location⟩ }
    let send : Transport Unit := fun _ _ => (⟨⟨{ status := 503 }, .zero⟩, 0⟩, ())
    ∃ src, Source.ofService? m.service "default" false = some src ∧
      let plan : Plan (ServiceScene × Nat) Unit Suspension :=
        ⟨src.among (.doing choose), send, ⟨"shop", "default"⟩, get, get.isIdempotent false, .one⟩
      let first : ServiceScene × Nat := (.opening m.service m.clock default, 0)
      (callsOf (start plan first ()).log).map (·.request.uri)
        = [⟨some "http", some "a:80", some location⟩,
          ⟨some "https", some "[::1]:8443", some location⟩] ∧
      ∃ made entry, (course plan first ()).made[1]? = some made ∧
        SendsTo Uri.ofParts? plan made entry := by
  intro updates m choose location get send
  have fits : (Source.ofService? m.service "default" false).isSome := by decide +kernel
  let plan : Plan (ServiceScene × Nat) Unit Suspension :=
    ⟨((Source.ofService? m.service "default" false).get fits).among (.doing choose), send,
      ⟨"shop", "default"⟩, get, get.isIdempotent false, .one⟩
  let first : ServiceScene × Nat := (.opening m.service m.clock default, 0)
  have facts : (callsOf (start plan first ()).log).map (·.request.uri)
        = [⟨some "http", some "a:80", some location⟩,
          ⟨some "https", some "[::1]:8443", some location⟩] ∧
      1 < (course plan first ()).made.length := by
    decide +kernel +revert
  obtain ⟨calls, twice⟩ := facts
  have second := List.getElem?_eq_getElem twice
  have rewritten := @only_target_rewritten Nat Unit get (get.isIdempotent false)
    ⟨"shop", "default"⟩ .one send () Uri.ofParts? Uri.assembles_ofParts?
  obtain ⟨entry, sendsTo⟩ := rewritten.1 "shop" none false {} 0 updates choose 0 default "default"
    false _ (Option.some_get fits).symm 1 _ second
  exact ⟨_, (Option.some_get fits).symm, calls, _, entry, second, sendsTo⟩

end Attempt

end Balancing
