import Balancing.Proofs.Attempt.History
import Balancing.Proofs.Attempt.Traffic

namespace Balancing.Traffic

variable {specs : List ServerSpec} {t : Traffic}

theorem run_append (t : Traffic) (first rest : List Event) :
    t.run specs (first ++ rest) = (t.run specs first).run specs rest := List.foldl_append

theorem advance_move {k : Nat} {session session' : Session} {service' : Service} {move : Move}
    (found : t.sessions[k]? = some session)
    (moved : session.move t.moment.service t.moment.clock move = some (session', service')) :
    t.advance specs (.move k move) = t.moved k session' service' := by
  unfold advance
  dsimp only
  rw [found, Option.bind_some, moved]

theorem advance_look (specs : List ServerSpec) {k : Nat} {session : Session}
    (found : t.sessions[k]? = some session) (looking : session.stage = .looking) :
    let looked := session.look t.moment.service t.moment.clock
    t.advance specs (.move k .look) = t.moved k looked.1 looked.2 := by
  refine advance_move found ?_
  unfold Session.move
  rw [looking]

theorem advance_answer (specs : List ServerSpec) {k : Nat} {session : Session}
    (found : t.sessions[k]? = some session) {target : Target}
    (awaiting : session.stage = .awaiting target) (result : TimedResponse) :
    let answered := session.answer t.moment.service t.moment.clock target result
    t.advance specs (.move k (.answer result)) = t.moved k answered.1 answered.2 := by
  refine advance_move found ?_
  unfold Session.move
  rw [awaiting]

-- One attempt: look, wait for the answer while time passes, settle it.
theorem attempt_by_moves (specs : List ServerSpec) {k : Nat} {session : Session}
    (found : t.sessions[k]? = some session) (looking : session.stage = .looking) {target : Target}
    {scene : ServiceScene} {notes : List Suspension}
    (resolved : session.source.resolve session.request
      (session.scene t.moment.service t.moment.clock) = (.ok target, scene, notes))
    (reply : Reply) :
    let settled := Attempt.settle session.source session.idempotent session.budget
      session.progress target reply.result (ServiceScene.passed reply.pause scene)
    ∃ session', (t.run specs [.move k .look, .pass reply.pause, .move k (.answer reply.result)]
        = ⟨{ t.moment with service := settled.source.service, clock := settled.source.clock },
          t.sessions.set k session'⟩) ∧
      session'.source = session.source ∧ session'.request = session.request ∧
      session'.idempotent = session.idempotent ∧ session'.budget = settled.budget ∧
      session'.progress = (if settled.again then
        { settled.progress with retries := settled.progress.retries + 1 } else settled.progress) ∧
      session'.stage = (if settled.again then .looking else .ended reply.result.response) ∧
      session'.scene settled.source.service settled.source.clock = settled.source := by
  intro settled
  have clock := Session.clock_of_resolved resolved
  have inside := (List.getElem?_eq_some_iff.mp found).1
  let sent : Session := { session.keep scene with stage := .awaiting target }
  let later : Instant := t.moment.clock + reply.pause
  have looked : session.look t.moment.service t.moment.clock = (sent, scene.service) :=
    Session.look_of_resolved resolved
  have waited : sent.scene (scene.service.wake later) later
      = ServiceScene.passed reply.pause scene := by
    unfold ServiceScene.passed
    rw [clock]
    rfl
  have first : t.advance specs (.move k .look) = t.moved k sent scene.service := by
    have moved := advance_look specs found looking
    rw [looked] at moved
    exact moved
  let waiting : Traffic :=
    ⟨⟨scene.service.wake later, later, t.moment.specs⟩, t.sessions.set k sent⟩
  have second : (t.moved k sent scene.service).advance specs (.pass reply.pause) = waiting := rfl
  have there : waiting.sessions[k]? = some sent := List.getElem?_set_self inside
  have third := advance_answer specs there rfl reply.result
  have answered : sent.answer (scene.service.wake later) later target reply.result
      = ({ sent.keep settled.source with
            budget := settled.budget
            progress := if settled.again then
              { settled.progress with retries := settled.progress.retries + 1 }
              else settled.progress
            stage := if settled.again then .looking else .ended reply.result.response },
          settled.source.service) := by
    unfold Session.answer
    rw [waited]
    rfl
  have settledClock : settled.source.clock = later := by
    have kept := Session.clock_settle session.serves session.idempotent session.budget
      session.progress target reply.result (ServiceScene.passed reply.pause scene)
    refine kept.trans ?_
    show scene.clock + reply.pause = later
    rw [clock]
  have ran : t.run specs [.move k .look, .pass reply.pause, .move k (.answer reply.result)]
      = ((t.advance specs (.move k .look)).advance specs (.pass reply.pause)).advance specs
        (.move k (.answer reply.result)) := rfl
  refine ⟨(sent.answer (scene.service.wake later) later target reply.result).1,
    ?_, rfl, rfl, rfl, ?_, ?_, ?_, ?_⟩
  · rw [ran, first, second, third]
    show (⟨⟨(sent.answer (scene.service.wake later) later target reply.result).2, later,
      t.moment.specs⟩, (t.sessions.set k sent).set k _⟩ : Traffic) = _
    rw [List.set_set, answered, settledClock]
  all_goals rw [answered]
  rfl

variable {τ : Type}

theorem make_of_serves {src : Source ServiceScene Suspension} {name : String} {adaptive : Bool}
    (serves : src.Serves name adaptive) (send : Transport τ) (context : Context) (request : Request)
    (idempotent : Bool) (factor : Binary64) (budget : Budget) (progress : Attempt.Progress)
    (target : Target) (scene : ServiceScene) (x : τ) :
    let plan : Attempt.Plan ServiceScene τ Suspension :=
      ⟨src, send, context, request, idempotent, factor⟩
    let made := Attempt.make plan budget progress target scene x
    let reply := (send made.call x).1
    let settled := Attempt.settle src idempotent budget progress target reply.result
      (ServiceScene.passed reply.pause scene)
    made.result = reply.result ∧ made.again = settled.again ∧ made.budget = settled.budget ∧
      made.progress = settled.progress ∧ made.source = settled.source := by
  have started := serves.started target scene
  have passed := serves.passed
  simp only [Attempt.make, started, passed, and_self]

-- What the whole loop of a request does is done by moves, with time passing while it waits. The
-- induction is on the tries that are left.
theorem run_by_moves (specs : List ServerSpec) (send : Transport τ) (context : Context)
    (factor : Binary64) (t : Traffic) {k : Nat} {session : Session} (x : τ)
    (found : t.sessions[k]? = some session) (looking : session.stage = .looking) :
    let plan : Attempt.Plan ServiceScene τ Suspension :=
      ⟨session.source, send, context, session.request, session.idempotent, factor⟩
    let ran := Attempt.run plan session.budget session.progress
      (session.scene t.moment.service t.moment.clock) x
    ∃ events session', t.run specs events
        = ⟨{ t.moment with service := ran.source.service, clock := ran.source.clock },
          t.sessions.set k session'⟩ ∧
      session'.stage = .ended ran.response := by
  induction tries : session.budget.triesLeft using Nat.strongRecOn generalizing t session x with
  | ind n ih =>
    intro plan ran
    obtain ⟨outcome, scene, notes, resolved⟩ : ∃ outcome scene notes,
        plan.source.resolve plan.request (session.scene t.moment.service t.moment.clock)
          = (outcome, scene, notes) := ⟨_, _, _, rfl⟩
    have inside := (List.getElem?_eq_some_iff.mp found).1
    cases outcome with
    | error response =>
      have refused : ran = ⟨response, _, scene, x⟩ := Attempt.run_of_refused resolved
      have clock := Session.clock_of_resolved resolved
      have looked : session.look t.moment.service t.moment.clock
          = ({ session.keep scene with stage := .ended response }, scene.service) :=
        Session.look_of_resolved resolved
      refine ⟨[.move k .look], { session.keep scene with stage := .ended response }, ?_, ?_⟩
      · have moved := advance_look specs found looking
        rw [looked] at moved
        rw [refused, clock]
        exact moved
      · rw [refused]
    | ok target =>
      let made := Attempt.make plan session.budget session.progress target scene x
      obtain ⟨result, again, budget, progress, source⟩ := make_of_serves session.serves send context
        session.request session.idempotent factor session.budget session.progress target scene x
      obtain ⟨session', step, source', request', idempotent', budget', progress', stage', kept⟩ :=
        attempt_by_moves specs found looking resolved (send made.call x).1
      rw [← source] at step kept
      rw [← budget] at budget'
      rw [← progress, ← again] at progress'
      rw [← again, ← result] at stage'
      by_cases more : made.again
      · rw [if_pos more] at progress' stage'
        have fewer : session'.budget.triesLeft < n := by
          rw [budget', ← tries]
          exact Attempt.triesLeft_make_lt plan more
        let after : Traffic :=
          ⟨{ t.moment with service := made.source.service, clock := made.source.clock },
            t.sessions.set k session'⟩
        have rest := ih _ fewer after made.transport (List.getElem?_set_self inside) stage' rfl
        rw [source', request', idempotent', budget', progress', kept] at rest
        obtain ⟨events, last, reached, ended⟩ := rest
        have later := Attempt.run_of_again resolved more
        have sources : ran.source = (Attempt.run plan made.budget
            { made.progress with retries := made.progress.retries + 1 } made.source
            made.transport).source := congrArg (fun run => run.source) later
        refine ⟨[.move k .look, .pass (send made.call x).1.pause,
          .move k (.answer (send made.call x).1.result)] ++ events, last, ?_, ?_⟩
        · rw [run_append, step, reached, sources, List.set_set]
        · exact ended.trans (congrArg (fun run => Stage.ended run.response) later).symm
      · rw [if_neg more] at stage'
        have final := Attempt.run_of_final resolved more
        have sources : ran.source = made.source := congrArg (fun run => run.source) final
        refine ⟨_, session', step.trans ?_, ?_⟩
        · rw [sources]
        · exact stage'.trans (congrArg (fun run => Stage.ended run.response) final).symm

end Balancing.Traffic
