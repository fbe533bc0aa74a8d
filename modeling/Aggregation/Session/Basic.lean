import Aggregation.Text.Escaped
import Aggregation.Grid
import Aggregation.Resource

namespace Aggregation

/-! A session drives a grid against a backend.

Each request that the grid issues becomes a task, after the tasks before it have
been cancelled; a refused request cancels them too.  A finished task stays until
`Session.nextEvent` hands its outcome to the grid under the number that the
session has on record for it.
-/

/-- How a task ended: with the backend's response, or by breaking down. -/
inductive FetchOutcome where
  | answered (response : Except NetworkError AggregationPage)
  | crashed (message : String)

structure FetchTask where
  id : Nat
  pending : PendingRequest
  /-- Nothing while the task is running. -/
  outcome : Option FetchOutcome

structure Session where
  grid : Grid
  tasks : List FetchTask
  /-- The request number of each task. -/
  seqs : List (Nat × Nat)
  nextTask : Nat

namespace Session

def new (settings : GridSettings) : Session := ⟨.new settings, [], [], 0⟩

def hasPending (session : Session) : Bool := !session.tasks.isEmpty

def cancelPending (session : Session) : Session := { session with tasks := [], seqs := [] }

/-- Starts a task for a request, after cancelling those it supersedes. -/
def dispatch (session : Session) (pending : PendingRequest) : Session :=
  let session := if session.tasks.isEmpty then session else session.cancelPending
  { session with
    tasks := session.tasks ++ [⟨session.nextTask, pending, none⟩]
    seqs := (session.nextTask, pending.seq) :: session.seqs
    nextTask := session.nextTask + 1 }

/-- Acts on what an operation of the grid came to. -/
def submit (session : Session) : Grid.Issue × Grid → Except ValidationError Unit × Session
  | (.issued pending, grid) => (.ok (), { session with grid }.dispatch pending)
  | (.refused error, grid) => (.error error, { session with grid }.cancelPending)
  | (.nothing, grid) => (.ok (), { session with grid })

def setInputs (session : Session) (inputs : GridInputs) :=
  session.submit (session.grid.setInputs inputs)

def setDashboard (session : Session) (dashboard : Json) :=
  session.submit (session.grid.setDashboard dashboard)

def load (session : Session) := session.submit session.grid.load

def setSort (session : Session) (sort : List SortDescriptor) :=
  session.submit (session.grid.setSort sort)

def setPage (session : Session) (skip take : Nat) :=
  session.submit (session.grid.setPage skip take)

def retry (session : Session) := session.submit session.grid.retry

/-- Makes the fields after the aggregation's pipeline the grid's columns.  Without
them the grid shows the error. -/
def loadColumns (session : Session) (source : MetadataSource) :
    Except EngineError Unit × Session :=
  match session.grid.inputs with
  | none => (.error (.validation (.missingValue "aggregation")), session)
  | some inputs =>
    match source.loadSourceFields inputs.dataSourceId inputs.aggregation.sourceFields with
    | .ok fields =>
      let columns := fieldsAfter fields inputs.aggregation.pipeline
      (.ok (), { session with grid := session.grid.setColumns columns })
    | .error error => (.error error, { session with grid := session.grid.failMetadata error })

def finish (session : Session) (task : Nat) (outcome : FetchOutcome) : Session :=
  { session with
    tasks := session.tasks.map fun t =>
      if t.id = task then { t with outcome := some outcome } else t }

/-- The account given of a task that broke down; the number of the task, which
differs from run to run, is not told. -/
def crashText (message : String) : String :=
  "task * panicked with message " ++ Text.shown message

def crashFailure (message : String) : NetworkError :=
  .transport ("Fetch task failed: " ++ crashText message)

def forget (session : Session) (task : Nat) : Session :=
  { session with
    tasks := session.tasks.filter (·.id != task)
    seqs := session.seqs.filter (·.1 != task) }

def applyTo (session : Session) (seq : Nat) (response : Except NetworkError AggregationPage) :
    GridEvent × Session :=
  let (event, grid) := session.grid.apply seq response
  (event, { session with grid })

/-- Hands the outcome of a task to the grid.  A task that broke down is known only
by the number on record for it. -/
def join (session : Session) (task : FetchTask) : Option GridEvent × Session :=
  let rest := session.forget task.id
  match task.outcome with
  | none => (none, session)
  | some (.answered response) =>
    let (event, session) := rest.applyTo task.pending.seq response
    (some event, session)
  | some (.crashed message) =>
    match session.seqs.lookup task.id with
    | none => (none, rest)
    | some seq =>
      let (event, session) := rest.applyTo seq (.error (crashFailure message))
      (some event, session)

/-- Joins tasks in turn up to the first that gives an event. -/
def joinFirst (session : Session) : List FetchTask → Option GridEvent × Session
  | [] => (none, session)
  | task :: rest =>
    match session.join task with
    | (some event, session) => (some event, session)
    | (none, session) => session.joinFirst rest

/-- Hands the first finished task to the grid. -/
def nextEvent (session : Session) : Option GridEvent × Session :=
  session.joinFirst (session.tasks.filter (·.outcome.isSome))

/-- Hands the outcomes of at most `count` finished tasks to the grid. -/
def drain (session : Session) : (count : Nat) → List GridEvent × Session
  | 0 => ([], session)
  | count + 1 =>
    match session.nextEvent with
    | (none, session) => ([], session)
    | (some event, session) =>
      let (events, session) := session.drain count
      (event :: events, session)

/-- Lets every running task end with what `respond` gives for its request, and
hands the outcomes of all tasks to the grid. -/
def settle (session : Session) (respond : AggregationRequest → FetchOutcome) :
    List GridEvent × Session :=
  let tasks := session.tasks.map fun task =>
    { task with outcome := some (task.outcome.getD (respond task.pending.request)) }
  { session with tasks }.drain tasks.length

def close (session : Session) : Session := session.cancelPending

end Session

end Aggregation
