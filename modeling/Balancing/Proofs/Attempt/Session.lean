import Balancing.Attempt.Sources
import Balancing.Proofs.Service.Frame

namespace Balancing

namespace Source

-- The hooks of a source over a service, whatever its profile says.
structure Serves (src : Source ServiceScene Suspension) (name : String) (adaptive : Bool) :
    Prop where
  resolve : ∃ tries, src.resolve = ServiceScene.resolve adaptive tries
  started : ∀ target scene, src.started target scene = ((), scene, [])
  passed : src.passed = ServiceScene.passed
  completed : src.completed = ServiceScene.completed adaptive name
  mayRetry : ∀ response idempotent scene, ∃ allowed,
    src.mayRetry response idempotent scene = (allowed, scene, [])
  decided : src.decided = ServiceScene.decided

theorem serves_of_made {service : Service} {name : String} {adaptive : Bool}
    {src : Source ServiceScene Suspension} (made : ofService? service name adaptive = some src) :
    src.Serves name adaptive := by
  obtain ⟨total, _, rfl⟩ := Option.map_eq_some_iff.mp made
  exact {
    resolve := ⟨_, rfl⟩
    started := fun _ _ => rfl
    passed := rfl
    completed := rfl
    mayRetry := fun _ _ _ => ⟨_, rfl⟩
    decided := rfl }

end Source

namespace ServiceScene

variable {scene : ServiceScene}

-- Drawing an order leaves the service and the clock as they are, also when it breaks off.
theorem withOrder_keeps (tries : Nat) (scene : ServiceScene) :
    (scene.withOrder tries).2.service = scene.service ∧
      (scene.withOrder tries).2.clock = scene.clock := by
  unfold withOrder
  split
  · exact ⟨rfl, rfl⟩
  · split <;> exact ⟨rfl, rfl⟩

theorem service_nextAdaptive (tries : Nat) (scene : ServiceScene) :
    (scene.nextAdaptive tries).2.service = scene.service := (withOrder_keeps tries scene).1

theorem service_resolve_adaptive (tries : Nat) (request : Request) (scene : ServiceScene) :
    (resolve true tries request scene).2.1.service = scene.service := by
  have kept := service_nextAdaptive tries scene
  unfold resolve
  split
  · rfl
  · dsimp only
    rw [if_pos rfl]
    split <;> exact kept

-- A static look is refused and leaves the service alone, or aims at what was acquired.
theorem resolve_static (tries : Nat) (request : Request) (scene : ServiceScene) :
    let looked := resolve false tries request scene
    (∃ response, looked.1 = .error response) ∧ looked.2.1.service = scene.service ∨
    ∃ entry, scene.service.acquire scene.clock scene.tried = (some entry, looked.2.1.service) ∧
      looked.1 = .ok (aim request entry) := by
  intro looked
  cases enabled : scene.service.enabled with
  | false =>
    have refused : looked = (.error .noAvailableServers, scene, []) := by
      simp only [looked, resolve, enabled, Bool.not_false, if_true]
    rw [refused]
    exact .inl ⟨⟨_, rfl⟩, rfl⟩
  | true =>
    cases acquired : scene.service.acquire scene.clock scene.tried with
    | mk found service =>
      cases found with
      | none =>
        have refused : looked = (.error .noAvailableServers, { scene with service }, []) := by
          simp [looked, resolve, enabled, nextStatic, acquired]
        rw [refused]
        exact .inl ⟨⟨_, rfl⟩, Service.acquire_none acquired⟩
      | some entry =>
        have aimed : looked = (.ok (aim request entry), { scene with service }, []) := by
          simp [looked, resolve, enabled, nextStatic, acquired]
        rw [aimed]
        exact .inr ⟨entry, rfl, rfl⟩

theorem service_decided (target : Target) (again : Bool) (scene : ServiceScene) :
    (decided target again scene).2.1.service = scene.service := by
  unfold decided
  split <;> rfl

theorem clock_resolve (adaptive : Bool) (tries : Nat) (request : Request) (scene : ServiceScene) :
    (resolve adaptive tries request scene).2.1.clock = scene.clock := by
  have drawn : (scene.nextAdaptive tries).2.clock = scene.clock :=
    (withOrder_keeps tries scene).2
  unfold resolve
  split
  · rfl
  · cases adaptive with
    | true =>
      dsimp only
      rw [if_pos rfl]
      split <;> exact drawn
    | false =>
      dsimp only
      rw [if_neg Bool.false_ne_true]
      split <;> rfl

theorem clock_completed (adaptive : Bool) (profile : String) (target : Target)
    (result : TimedResponse) (isError : Bool) (scene : ServiceScene) :
    (completed adaptive profile target result isError scene).2.1.clock = scene.clock := by
  unfold completed
  split <;> rfl

theorem broken_released_of_error (name : String) (entry : Entry) (micros : UInt64)
    (adaptive : Bool) (scene : ServiceScene) :
    (scene.released name entry true micros adaptive).1.broken = scene.broken := by
  show scene.broken.or (scene.service.breakdown? entry true micros adaptive) = scene.broken
  rw [Service.breakdown?_of_error, Option.or_none]

theorem clock_decided (target : Target) (again : Bool) (scene : ServiceScene) :
    (decided target again scene).2.1.clock = scene.clock := by
  unfold decided
  split <;> rfl

end ServiceScene

inductive Stage where
  | looking
  | awaiting (target : Target)
  | ended (response : Response)

def Stage.isAwaiting : Stage → Bool
  | .awaiting _ => true
  | _ => false

def Stage.found : Except Response Target → Stage
  | .error response => .ended response
  | .ok target => .awaiting target

structure Session where
  profile : String
  adaptive : Bool
  source : Source ServiceScene Suspension
  serves : source.Serves profile adaptive
  request : Request
  idempotent : Bool
  words : Words
  tried : List Nat := []
  order : Option (List Entry) := none
  broken : Option Breakdown := none
  budget : Budget
  progress : Attempt.Progress := {}
  stage : Stage := .looking

inductive Move where
  | look
  | answer (result : TimedResponse)

namespace Session

def start {profile : String} {adaptive : Bool} {source : Source ServiceScene Suspension}
    (serves : source.Serves profile adaptive) (request : Request) (force : Bool) (words : Words) :
    Session where
  profile
  adaptive
  source
  serves
  request
  idempotent := request.isIdempotent force
  words
  budget := source.budget

-- Nothing begins under a profile whose total time is no duration.
def begin? (service : Service) (profile : String) (adaptive : Bool) (request : Request)
    (force : Bool) (words : Words) : Option Session :=
  (Source.ofService? service profile adaptive).attach.map fun made =>
    start (Source.serves_of_made made.2) request force words

def scene (session : Session) (service : Service) (clock : Instant) : ServiceScene :=
  ⟨service, clock, session.words, session.tried, session.order, session.broken⟩

-- What a session takes along from a scene; the service in it belongs to all.
def keep (session : Session) (scene : ServiceScene) : Session :=
  { session with
    words := scene.words
    tried := scene.tried
    order := scene.order
    broken := scene.broken }

def look (session : Session) (service : Service) (clock : Instant) : Session × Service :=
  let looked := session.source.resolve session.request (session.scene service clock)
  ({ session.keep looked.2.1 with stage := .found looked.1 }, looked.2.1.service)

def answer (session : Session) (service : Service) (clock : Instant) (target : Target)
    (result : TimedResponse) : Session × Service :=
  let settled := Attempt.settle session.source session.idempotent session.budget session.progress
    target result (session.scene service clock)
  let session := session.keep settled.source
  ({ session with
      budget := settled.budget
      progress := if settled.again then
        { settled.progress with retries := settled.progress.retries + 1 } else settled.progress
      stage := if settled.again then .looking else .ended result.response },
    settled.source.service)

def move (session : Session) (service : Service) (clock : Instant) :
    Move → Option (Session × Service)
  | .look =>
    match session.stage with
    | .looking => some (session.look service clock)
    | _ => none
  | .answer result =>
    match session.stage with
    | .awaiting target => some (session.answer service clock target result)
    | _ => none

-- The entry that a static session has acquired and not released yet.
def held? (session : Session) : Option Entry :=
  match session.adaptive, session.stage with
  | false, .awaiting target => target.entry
  | _, _ => none

-- What a move does to the service, beside what it does to the session's hold.
inductive Moves (session : Session) (service : Service) (clock : Instant) (session' : Session) :
    Service → Prop where
  | idle (before : session.held? = none) (after : session'.held? = none) :
    Moves session service clock session' service
  | lent {excluded : List Nat} {entry : Entry} {service' : Service}
    (before : session.held? = none)
    (acquired : service.acquire clock excluded = (some entry, service'))
    (after : session'.held? = some entry) : Moves session service clock session' service'
  | returned {entry : Entry} (before : session.held? = some entry) (isError : Bool)
    (micros : UInt64) (after : session'.held? = none) :
    Moves session service clock session'
      (service.release clock session.profile entry isError micros false).1
  | reported (before : session.held? = none) (entry : Entry) (isError : Bool) (micros : UInt64)
    (after : session'.held? = none) :
    Moves session service clock session'
      (service.release clock session.profile entry isError micros true).1

variable {session session' : Session} {service service' : Service} {clock : Instant}

theorem clock_of_resolved {request : Request} {outcome : Except Response Target}
    {scene : ServiceScene} {notes : List Suspension}
    (resolved : session.source.resolve request (session.scene service clock)
      = (outcome, scene, notes)) : scene.clock = clock := by
  obtain ⟨tries, resolve⟩ := session.serves.resolve
  have kept := ServiceScene.clock_resolve session.adaptive tries request
    (session.scene service clock)
  rw [← resolve, resolved] at kept
  exact kept

theorem look_of_resolved {outcome : Except Response Target} {scene : ServiceScene}
    {notes : List Suspension}
    (resolved : session.source.resolve session.request (session.scene service clock)
      = (outcome, scene, notes)) :
    session.look service clock
      = ({ session.keep scene with stage := .found outcome }, scene.service) := by
  unfold look
  rw [resolved]

theorem held?_of_idle (idle : ¬session.stage.isAwaiting) : session.held? = none := by
  unfold held?
  split
  · rename_i awaiting
    rw [awaiting] at idle
    exact absurd rfl idle
  · rfl

theorem held?_of_looking (looking : session.stage = .looking) : session.held? = none := by
  refine held?_of_idle ?_
  rw [looking]
  exact Bool.false_ne_true

theorem held?_of_ended {response : Response} (ended : session.stage = .ended response) :
    session.held? = none := by
  refine held?_of_idle ?_
  rw [ended]
  exact Bool.false_ne_true

theorem looking_of_begin {profile : String} {adaptive : Bool} {request : Request} {force : Bool}
    {words : Words}
    (begun : begin? service profile adaptive request force words = some session) :
    session.stage = .looking := by
  obtain ⟨made, _, rfl⟩ := Option.map_eq_some_iff.mp begun
  rfl

theorem held?_of_adaptive (adaptive : session.adaptive = true) : session.held? = none := by
  unfold held?
  rw [adaptive]

theorem held?_of_static (static : session.adaptive = false) {target : Target}
    (stage : session.stage = .awaiting target) : session.held? = target.entry := by
  unfold held?
  rw [static, stage]

theorem moves_of_look (looking : session.stage = .looking) :
    session.Moves service clock (session.look service clock).1 (session.look service clock).2 := by
  have before := held?_of_looking looking
  obtain ⟨tries, resolve⟩ := session.serves.resolve
  cases adaptive : session.adaptive with
  | true =>
    have kept : (session.look service clock).2 = service := by
      unfold look
      rw [resolve, adaptive]
      exact ServiceScene.service_resolve_adaptive ..
    rw [kept]
    exact .idle before (held?_of_adaptive adaptive)
  | false =>
    rw [adaptive] at resolve
    have looked := ServiceScene.resolve_static tries session.request (session.scene service clock)
    rw [← resolve] at looked
    rcases looked with ⟨⟨response, refused⟩, kept⟩ | ⟨entry, acquired, aimed⟩
    · have after : (session.look service clock).1.held? = none := by
        have stage : (session.look service clock).1.stage = .ended response := by
          show Stage.found _ = _
          rw [refused]
          rfl
        exact held?_of_ended stage
      have same : (session.look service clock).2 = service := kept
      rw [same]
      exact .idle before after
    · have after : (session.look service clock).1.held? = some entry := by
        have stage : (session.look service clock).1.stage
            = .awaiting (ServiceScene.aim session.request entry) := by
          show Stage.found _ = _
          rw [aimed]
          rfl
        have static : (session.look service clock).1.adaptive = false := adaptive
        exact held?_of_static static stage
      exact .lent before acquired after

-- Whatever is decided, the service is as the release left it.
theorem service_settle {src : Source ServiceScene Suspension} {name : String} {adaptive : Bool}
    (serves : src.Serves name adaptive) (idempotent : Bool) (budget : Budget)
    (progress : Attempt.Progress) (target : Target) (result : TimedResponse)
    (scene : ServiceScene) :
    (Attempt.settle src idempotent budget progress target result scene).source.service
      = (ServiceScene.completed adaptive name target result (src.isServerError result.response)
          scene).2.1.service := by
  unfold Attempt.settle
  rw [serves.completed, serves.decided]
  dsimp only
  rw [ServiceScene.service_decided]
  split
  · obtain ⟨allowed, kept⟩ := serves.mayRetry result.response idempotent
      (ServiceScene.completed adaptive name target result (src.isServerError result.response)
        scene).2.1
    rw [kept]
  · rfl

theorem clock_settle {src : Source ServiceScene Suspension} {name : String} {adaptive : Bool}
    (serves : src.Serves name adaptive) (idempotent : Bool) (budget : Budget)
    (progress : Attempt.Progress) (target : Target) (result : TimedResponse)
    (scene : ServiceScene) :
    (Attempt.settle src idempotent budget progress target result scene).source.clock
      = scene.clock := by
  unfold Attempt.settle
  rw [serves.completed, serves.decided]
  dsimp only
  rw [ServiceScene.clock_decided]
  split
  · obtain ⟨allowed, kept⟩ := serves.mayRetry result.response idempotent
      (ServiceScene.completed adaptive name target result (src.isServerError result.response)
        scene).2.1
    rw [kept]
    exact ServiceScene.clock_completed ..
  · exact ServiceScene.clock_completed ..

theorem held?_answer (session : Session) (service : Service) (clock : Instant) (target : Target)
    (result : TimedResponse) : (session.answer service clock target result).1.held? = none := by
  cases again : (Attempt.settle session.source session.idempotent session.budget session.progress
      target result (session.scene service clock)).again with
  | false =>
    have stage : (session.answer service clock target result).1.stage = .ended result.response := by
      simp [answer, again]
    exact held?_of_ended stage
  | true =>
    have stage : (session.answer service clock target result).1.stage = .looking := by
      simp [answer, again]
    exact held?_of_looking stage

theorem moves_of_answer {target : Target} (awaiting : session.stage = .awaiting target)
    (result : TimedResponse) :
    session.Moves service clock (session.answer service clock target result).1
      (session.answer service clock target result).2 := by
  have after := held?_answer session service clock target result
  have completed := service_settle session.serves session.idempotent session.budget session.progress
    target result (session.scene service clock)
  have given : (session.answer service clock target result).2 = (ServiceScene.completed
      session.adaptive session.profile target result
      (session.source.isServerError result.response) (session.scene service clock)).2.1.service :=
    completed
  rw [given]
  unfold ServiceScene.completed
  cases aimed : target.entry with
  | none =>
    have before : session.held? = none := by
      cases adaptive : session.adaptive with
      | true => exact held?_of_adaptive adaptive
      | false => rw [held?_of_static adaptive awaiting, aimed]
    exact .idle before after
  | some entry =>
    cases adaptive : session.adaptive with
    | true => exact .reported (held?_of_adaptive adaptive) entry _ _ after
    | false =>
      have before : session.held? = some entry := by
        rw [held?_of_static adaptive awaiting, aimed]
      exact .returned before _ _ after

theorem moves_of_move {move : Move} (moved : session.move service clock move
    = some (session', service')) : session.Moves service clock session' service' := by
  cases move with
  | look =>
    cases stage : session.stage with
    | looking =>
      simp only [Session.move, stage, Option.some.injEq] at moved
      have same : session.Moves service clock (session.look service clock).1
          (session.look service clock).2 := moves_of_look stage
      rw [moved] at same
      exact same
    | awaiting target => simp [Session.move, stage] at moved
    | ended response => simp [Session.move, stage] at moved
  | answer result =>
    cases stage : session.stage with
    | looking => simp [Session.move, stage] at moved
    | awaiting target =>
      simp only [Session.move, stage, Option.some.injEq] at moved
      have same : session.Moves service clock (session.answer service clock target result).1
          (session.answer service clock target result).2 := moves_of_answer stage result
      rw [moved] at same
      exact same
    | ended response => simp [Session.move, stage] at moved

end Session

end Balancing
