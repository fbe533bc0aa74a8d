import Aggregation.Session.Basic
import Aggregation.Proofs.Grid.Operation
import Aggregation.Proofs.Run

namespace Aggregation

/-! What can happen to a session, step by step.

The user's operations, the end of a task and the joining of a finished task come
in any order.  A `Session.Log` adds what can be seen from outside: the requests for
which tasks were started, and the events.
-/

namespace GridEvent

def seq : GridEvent → Nat
  | applied seq => seq
  | discarded seq => seq
  | failed seq _ => seq

def isDiscarded : GridEvent → Bool
  | discarded _ => true
  | _ => false

end GridEvent

namespace FetchOutcome

def response : FetchOutcome → Except NetworkError AggregationPage
  | answered response => response
  | crashed message => .error (Session.crashFailure message)

end FetchOutcome

namespace Session

inductive Step where
  | setInputs (inputs : GridInputs)
  | setDashboard (dashboard : Json)
  | load
  | setSort (sort : List SortDescriptor)
  | setPage (skip take : Nat)
  | retry
  | loadColumns (source : MetadataSource)
  | close
  /-- A task ends. -/
  | finish (task : Nat) (outcome : FetchOutcome)
  | nextEvent

/-- What the one who takes a step is told. -/
inductive Report where
  | submitted (result : Except ValidationError Unit)
  | loaded (result : Except EngineError Unit)
  | joined (event : Option GridEvent)
  | done

def Report.event? : Report → Option GridEvent
  | .joined event => event
  | _ => none

def perform (session : Session) : Step → Report × Session
  | .setInputs inputs => (session.setInputs inputs).map .submitted id
  | .setDashboard dashboard => (session.setDashboard dashboard).map .submitted id
  | .load => session.load.map .submitted id
  | .setSort sort => (session.setSort sort).map .submitted id
  | .setPage skip take => (session.setPage skip take).map .submitted id
  | .retry => session.retry.map .submitted id
  | .loadColumns source => (session.loadColumns source).map .loaded id
  | .close => (.done, session.close)
  | .finish task outcome => (.done, session.finish task outcome)
  | .nextEvent => session.nextEvent.map .joined id

def Step.operation? : Step → Option Grid.Operation
  | setInputs inputs => some (.setInputs inputs)
  | setDashboard dashboard => some (.setDashboard dashboard)
  | load => some .load
  | setSort sort => some (.setSort sort)
  | setPage skip take => some (.setPage skip take)
  | retry => some .retry
  | _ => none

/-- A step that submits an operation acts on what it comes to. -/
theorem perform_of_operation (session : Session) {step : Step} {operation : Grid.Operation}
    (submits : step.operation? = some operation) :
    ∃ issue grid, Grid.Performs session.grid operation (.asked issue) grid ∧
      session.perform step = (session.submit (issue, grid)).map .submitted id := by
  cases step <;> cases submits <;>
    exact ⟨_, _, Grid.perform_performs session.grid _, rfl⟩

structure Log where
  session : Session
  /-- The requests for which tasks were started, the latest first. -/
  dispatched : List PendingRequest := []
  /-- The latest first. -/
  events : List GridEvent := []

/-- The requests of the tasks in `after` that had not been started in `before`. -/
def startedSince (before after : Session) : List PendingRequest :=
  (after.tasks.filter (before.nextTask ≤ ·.id)).map (·.pending)

namespace Log

def start (settings : GridSettings) : Log := { session := .new settings }

def after (log : Log) (step : Step) : Log where
  session := (log.session.perform step).2
  dispatched := startedSince log.session (log.session.perform step).2 ++ log.dispatched
  events := (log.session.perform step).1.event?.toList ++ log.events

def ofRun (settings : GridSettings) (steps : List Step) : Log :=
  Run.play after (start settings) steps

/-- Whether a step is none of the two that leave the grid waiting in vain or
abandon its display: closing, and columns that cannot be loaded. -/
def Undisturbed (log : Log) : Step → Prop
  | .close => False
  | .loadColumns source => ∃ session, log.session.loadColumns source = (.ok (), session)
  | _ => True

end Log

end Session

end Aggregation
