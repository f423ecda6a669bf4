import StreamAudit.Service

/-!
The tasks of a request, one for each of its audit ids. Tasks take turns in any order. A task waits
for one of the permits, calls the backend, settles what the call came to by the policy on failures,
and gives its permit back, whether or not it has a series. When all tasks are done their results are
gathered in the order of the audit ids, and the request is answered with the reports, or with the
first fault among the results.
-/

set_option autoImplicit false
set_option relaxedAutoImplicit false

namespace StreamAudit

/-- The tasks of a request on a service, at most so many of them at a time. -/
structure FanOut where
  service : Service
  request : Request
  nodeTypes : Dictionary String
  auditIds : List String
  limit : Nat

namespace FanOut

/-- What a task comes to. -/
abbrev Result :=
  Except Fault Series

/-- Where a task stands. From when it is admitted until it is done it holds a permit. -/
inductive Phase where
  | waiting
  | admitted
  | calling
  | settled (result : Result)
  | done (result : Result)

/-- Where the tasks of a request stand, with the permits that are left, the audit ids for which the
backend was called, in the order of the calls, and the answer once there is one. -/
structure State where
  phase : String → Phase := fun _ ↦ .waiting
  permits : Nat
  calls : List String := []
  answer : Option (Except Fault (List Report)) := none

/-- Who goes on: the task of an audit id, or the request itself. -/
inductive Turn where
  | task (auditId : String)
  | gather

/-- The next phase of a task and the permits that it leaves; a task that waits needs a permit to go
on. -/
def Phase.next? (result : Result) (permits : Nat) : Phase → Option (Phase × Nat)
  | .waiting =>
    match permits with
    | 0 => none
    | left + 1 => some (.admitted, left)
  | .admitted => some (.calling, permits)
  | .calling => some (.settled result, permits)
  | .settled result => some (.done result, permits + 1)
  | .done _ => none

/-- The calls of the backend that a task makes on its way out of a phase. -/
def Phase.calls (auditId : String) : Phase → List String
  | .admitted => [auditId]
  | _ => []

/-- Whether a task has called the backend and has no answer yet. -/
def Phase.isCalling : Phase → Bool
  | .calling => true
  | _ => false

/-- The result of a task that is done. -/
def Phase.result? : Phase → Option Result
  | .done result => some result
  | _ => none

/-- Changes the phase of one task. -/
def place (phase : String → Phase) (auditId : String) (later : Phase) (other : String) : Phase :=
  if other = auditId then later else phase other

/-- The state after a task has gone on to a phase and has left so many permits. -/
def State.move (state : State) (auditId : String) (later : Phase × Nat) : State :=
  { state with
    phase := place state.phase auditId later.1
    permits := later.2
    calls := state.calls ++ (state.phase auditId).calls auditId }

variable (work : FanOut)

/-- The tasks of a request that was resolved to some audit ids. -/
def ofPlan (service : Service) (request : Request) (plan : List String × Dictionary String)
    (limit : Nat) :
    FanOut :=
  ⟨service, request, plan.2, plan.1, limit⟩

/-- Where the tasks start. -/
def start : State :=
  { permits := work.limit }

/-- What the task of an audit id comes to. -/
def resultOf (auditId : String) : Result :=
  work.service.series work.request work.nodeTypes auditId

/-- The results of all tasks in the order of the audit ids, once they are all done. -/
def gathered? (state : State) : Option (List Result) :=
  work.auditIds.mapM fun auditId ↦ (state.phase auditId).result?

/-- The reports of some results, or the first fault among them. -/
def conclude (results : List Result) : Except Fault (List Report) := do
  let found ← results.mapM id
  pure (found.map (Rollup.report work.request.granularity.precision))

/-- One turn, if it can be taken. -/
def turn? (state : State) : Turn → Option State
  | .task auditId =>
    if auditId ∈ work.auditIds then
      ((state.phase auditId).next? (work.resultOf auditId) state.permits).map (state.move auditId)
    else none
  | .gather =>
    if state.answer.isSome then none
    else (work.gathered? state).map fun results ↦
      { state with answer := some (work.conclude results) }

/-- Where a schedule leads, if each of its turns can be taken. -/
def run? (schedule : List Turn) : Option State :=
  schedule.foldlM work.turn? work.start

/-- The number of calls of the backend that have begun and not ended. -/
def inFlight (state : State) : Nat :=
  work.auditIds.countP fun auditId ↦ (state.phase auditId).isCalling

end FanOut

end StreamAudit
