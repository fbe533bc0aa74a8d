import Aggregation.Request

namespace Aggregation

/-! The grid: which page is shown, and which one was asked for.

Every operation that needs records issues a request with a sequence number of
its own, and only the response with the latest number is applied.  A request
that cannot be built takes a number too, so that responses to earlier ones are
dropped.  After a failure the grid shows the last page again.
-/

structure GridSettings where
  pageSize : Nat := 10
  pageSizes : List Nat := [10, 20, 50]
  /-- How long a request waits after a change of the dashboard, in milliseconds. -/
  debounce : Nat := 500
deriving DecidableEq, Repr

/-- What the surrounding widget gives to a grid. -/
structure GridInputs where
  dataSourceId : String := ""
  aggregation : AggregationSpec := {}
  contextFilters : Option Json := none
  asOf : Option String := none

namespace GridInputs

def sameValue (a b : GridInputs) : Bool :=
  a.dataSourceId == b.dataSourceId && a.aggregation == b.aggregation &&
    a.contextFilters == b.contextFilters && a.asOf == b.asOf

instance : BEq GridInputs := ⟨sameValue⟩

end GridInputs

inductive GridStatus where
  | idle
  | loading
  | loaded
  | error
deriving DecidableEq, Repr

def GridStatus.name : GridStatus → String
  | idle => "Idle"
  | loading => "Loading"
  | loaded => "Loaded"
  | error => "Error"

structure GridWindow where
  skip : Nat
  pageSize : Nat
deriving DecidableEq, Repr

/-- A request to be sent once the debounce time has passed, unless a newer one
takes its place. -/
structure PendingRequest where
  seq : Nat
  request : AggregationRequest
  debounce : Nat

inductive GridEvent where
  | applied (seq : Nat)
  | discarded (seq : Nat)
  | failed (seq : Nat) (message : String)
deriving DecidableEq, Repr

structure Grid where
  settings : GridSettings
  inputs : Option GridInputs
  dashboard : Json
  columns : List Field
  sort : List SortDescriptor
  window : GridWindow
  /-- The last page that was applied. -/
  items : List Json
  totalCount : Nat
  status : GridStatus
  error : Option String
  /-- The number of the latest request, issued or refused. -/
  seq : Nat
  lastRequest : Option AggregationRequest
  /-- The request that failed, which `retry` sends again as it is. -/
  failedRequest : Option AggregationRequest
  /-- The window of the items shown. -/
  shown : GridWindow

namespace Grid

def new (settings : GridSettings) : Grid where
  settings
  inputs := none
  dashboard := .null
  columns := []
  sort := []
  window := ⟨0, settings.pageSize⟩
  items := []
  totalCount := 0
  status := .idle
  error := none
  seq := 0
  lastRequest := none
  failedRequest := none
  shown := ⟨0, settings.pageSize⟩

/-- What the grid asks for, given its inputs. -/
def query (grid : Grid) (inputs : GridInputs) : GridQuery where
  dataSourceId := inputs.dataSourceId
  aggregationId := inputs.aggregation.id.getD ""
  pageSize := grid.window.pageSize
  skip := grid.window.skip
  sort := grid.sort
  contextFilters := inputs.contextFilters
  asOf := inputs.asOf

/-- The request for the grid's current inputs, dashboard, sort and window. -/
def buildRequest (grid : Grid) : Except ValidationError AggregationRequest :=
  match grid.inputs with
  | none => .error (.missingValue "aggregation")
  | some inputs =>
    AggregationRequest.build inputs.aggregation grid.columns grid.dashboard (grid.query inputs)

def track (grid : Grid) (request : AggregationRequest) (debounce : Nat) : PendingRequest × Grid :=
  (⟨grid.seq + 1, request, debounce⟩,
    { grid with
      seq := grid.seq + 1
      failedRequest := none
      status := .loading
      lastRequest := some request })

/-- Refuses a request that cannot be built; it takes a number all the same. -/
def refuse (grid : Grid) (error : ValidationError) : Grid :=
  { grid with
    seq := grid.seq + 1
    failedRequest := none
    window := grid.shown
    status := .error
    error := some error.message }

/-- What an operation came to: a request issued, a request refused, or nothing to
ask for. -/
inductive Issue where
  | issued (pending : PendingRequest)
  | refused (error : ValidationError)
  | nothing

def issue (grid : Grid) (debounce : Nat) : Issue × Grid :=
  match grid.buildRequest with
  | .ok request =>
    let (pending, grid) := grid.track request debounce
    (.issued pending, grid)
  | .error error => (.refused error, grid.refuse error)

def load (grid : Grid) : Issue × Grid := grid.issue 0

/-- New inputs start at the first page; the same inputs again ask for nothing. -/
def setInputs (grid : Grid) (inputs : GridInputs) : Issue × Grid :=
  if grid.inputs == some inputs then (.nothing, grid)
  else { grid with inputs := some inputs, window := { grid.window with skip := 0 } }.load

/-- New dashboard values start at the first page, after the debounce time. -/
def setDashboard (grid : Grid) (dashboard : Json) : Issue × Grid :=
  if grid.dashboard == dashboard then (.nothing, grid)
  else if grid.inputs.isNone then (.nothing, { grid with dashboard })
  else { grid with dashboard, window := { grid.window with skip := 0 } }.issue
    grid.settings.debounce

def setColumns (grid : Grid) (columns : List Field) : Grid := { grid with columns }

/-- A new sort starts at the first page. -/
def setSort (grid : Grid) (sort : List SortDescriptor) : Issue × Grid :=
  { grid with sort, window := { grid.window with skip := 0 } }.load

/-- Asks for exactly the given window. -/
def setPage (grid : Grid) (skip take : Nat) : Issue × Grid :=
  { grid with window := ⟨skip, take⟩ }.load

/-- Sends the failed request again under a new number; without one it is `load`. -/
def retry (grid : Grid) : Issue × Grid :=
  match grid.failedRequest with
  | some request =>
    let (pending, grid) :=
      { grid with window := ⟨request.skip, request.first⟩ }.track request 0
    (.issued pending, grid)
  | none => grid.load

def applyPage (grid : Grid) (page : AggregationPage) : Grid :=
  let window := match grid.lastRequest with
    | some request => ⟨request.skip, request.first⟩
    | none => grid.window
  { grid with
    window
    shown := window
    items := page.items
    totalCount := page.totalCount
    status := .loaded
    error := none }

def applyFailure (grid : Grid) (failure : NetworkError) : Grid :=
  { grid with
    failedRequest := grid.lastRequest
    window := grid.shown
    status := .error
    error := some failure.banner }

/-- Hands in the response to request `seq`, which only the latest one's changes
anything. -/
def apply (grid : Grid) (seq : Nat) (response : Except NetworkError AggregationPage) :
    GridEvent × Grid :=
  if seq ≠ grid.seq then (.discarded seq, grid)
  else match response with
    | .ok page => (.applied seq, grid.applyPage page)
    | .error failure => (.failed seq failure.banner, grid.applyFailure failure)

def metadataMessage : EngineError → String
  | .network error => error.banner
  | error => error.message

/-- Marks the grid as unusable because its metadata could not be loaded. -/
def failMetadata (grid : Grid) (error : EngineError) : Grid :=
  { grid with columns := [], status := .error, error := some (metadataMessage error) }

end Grid

end Aggregation
