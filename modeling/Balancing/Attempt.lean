import Balancing.Metrics
import Balancing.Request
import Balancing.Retry.Budget
import Balancing.Service

namespace Balancing

structure Target where
  request : Request
  entry : Option Entry
  address : String
  deriving DecidableEq, Repr

structure Context where
  service : String
  profile : String
  deriving DecidableEq, Repr

-- One request as the transport gets it; the first attempt has number zero.
structure Call where
  attempt : Nat
  request : Request
  context : Context
  deriving DecidableEq, Repr

-- What the transport answers, and how many nanoseconds pass on the clock until then.
structure Reply where
  result : TimedResponse
  pause : Nat
  deriving Inhabited

abbrev Transport (τ : Type) := Call → τ → Reply × τ

abbrev Noting (σ ε α : Type) := σ → α × σ × List ε

-- How one kind of request finds its targets and what it does at each point of an attempt.
structure Source (σ ε : Type) where
  service : String
  datacenter : Option String
  budget : Budget
  requestTimeout : Duration
  connectTimeout : Option Duration
  -- The next target, or the response that ends the request.
  resolve : Request → Noting σ ε (Except Response Target)
  started : Target → Noting σ ε Unit
  passed : Nat → σ → σ
  completed : Target → TimedResponse → Bool → Noting σ ε Unit
  isServerError : Response → Bool
  mayRetry : Response → Bool → Noting σ ε Bool
  decided : Target → Bool → Noting σ ε Unit

inductive Happening (ε : Type) where
  | noted (note : ε)
  | called (call : Call)
  | reported (report : Report)

namespace Attempt

variable {σ τ ε : Type}

structure Progress where
  retries : Nat := 0
  firstStatus : Option UInt16 := none
  lastAddress : Option String := none
  deriving DecidableEq, Repr

structure Run (σ τ ε : Type) where
  response : Response
  log : List (Happening ε)
  source : σ
  transport : τ

structure Plan (σ τ ε : Type) where
  source : Source σ ε
  send : Transport τ
  context : Context
  request : Request
  idempotent : Bool
  factor : Binary64

structure Settled (σ ε : Type) where
  again : Bool
  budget : Budget
  progress : Progress
  log : List (Happening ε)
  source : σ

structure Made (σ τ ε : Type) extends Settled σ ε where
  target : Target
  call : Call
  result : TimedResponse
  transport : τ

def notes (l : List ε) : List (Happening ε) := l.map .noted

-- Gives the result back to the target and decides whether another attempt follows.
def settle (src : Source σ ε) (idempotent : Bool) (budget : Budget) (progress : Progress)
    (target : Target) (result : TimedResponse) (s : σ) : Settled σ ε :=
  let response := result.response
  let budget := budget.charge result.elapsed
  let ((), s, completeNotes) := src.completed target result (src.isServerError response) s
  -- the response is looked at only while the budget lasts
  let (allowed, s, checkNotes) :=
    if budget.canRetry then src.mayRetry response idempotent s else (false, s, [])
  let again := budget.canRetry && allowed
  let report : Report := .attempt src.service src.datacenter target.address response.status
    result.elapsed.micros (!again)
  let ((), s, decideNotes) := src.decided target again s
  { again
    budget
    progress := {
      retries := progress.retries
      firstStatus := some (progress.firstStatus.getD response.status)
      lastAddress := some target.address }
    log := notes completeNotes ++ notes checkNotes ++ [.reported report] ++ notes decideNotes
    source := s }

variable (plan : Plan σ τ ε)

def outbound (budget : Budget) (target : Target) : Request :=
  { target.request with
    timeout := some (budget.attemptTimeout plan.source.requestTimeout plan.factor)
    connectTimeout := plan.source.connectTimeout.or target.request.connectTimeout }

def make (budget : Budget) (progress : Progress) (target : Target) (s : σ) (t : τ) :
    Made σ τ ε :=
  let src := plan.source
  let call : Call := ⟨progress.retries, outbound plan budget target, plan.context⟩
  let ((), s, startNotes) := src.started target s
  let (reply, t) := plan.send call t
  let settled := settle src plan.idempotent budget progress target reply.result
    (src.passed reply.pause s)
  { settled with
    log := notes startNotes ++ [.called call] ++ settled.log
    target
    call
    result := reply.result
    transport := t }

def closing (progress : Progress) (response : Response) : List (Happening ε) :=
  if progress.retries = 0 then []
  else [.reported (.retried plan.source.service plan.source.datacenter
    (progress.lastAddress.getD "") response.status
    (progress.firstStatus.getD response.status) progress.retries)]

theorem triesLeft_make_lt {budget : Budget} {progress : Progress} {target : Target} {s : σ} {t : τ}
    (again : (make plan budget progress target s t).again) :
    (make plan budget progress target s t).budget.triesLeft < budget.triesLeft := by
  have canRetry : (make plan budget progress target s t).budget.canRetry := by
    simp only [make, settle, Bool.and_eq_true] at again ⊢
    exact again.1
  exact Budget.triesLeft_charge_lt canRetry

def run (budget : Budget) (progress : Progress) (s : σ) (t : τ) : Run σ τ ε :=
  match plan.source.resolve plan.request s with
  | (.error response, s, resolveNotes) =>
    ⟨response, notes resolveNotes ++ closing plan progress response, s, t⟩
  | (.ok target, s, resolveNotes) =>
    let made := make plan budget progress target s t
    if made.again then
      let later := run made.budget { made.progress with retries := made.progress.retries + 1 }
        made.source made.transport
      { later with log := notes resolveNotes ++ made.log ++ later.log }
    else
      ⟨made.result.response,
        notes resolveNotes ++ made.log ++ closing plan made.progress made.result.response,
        made.source, made.transport⟩
termination_by budget.triesLeft
decreasing_by exact triesLeft_make_lt plan ‹_›

def start (s : σ) (t : τ) : Run σ τ ε := run plan plan.source.budget {} s t

end Attempt

def callsOf {ε : Type} (log : List (Happening ε)) : List Call :=
  log.filterMap fun | .called c => some c | _ => none

def reportsOf {ε : Type} (log : List (Happening ε)) : List Report :=
  log.filterMap fun | .reported r => some r | _ => none

end Balancing
