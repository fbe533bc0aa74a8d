import Aggregation.CommandLine.Command
import Aggregation.CommandLine.Failure
import Aggregation.Editor
import Aggregation.Field.Codec
import Aggregation.Session.Basic

namespace Aggregation.CommandLine

/-! What the commands do, once files and settings are read.

There are two ways to a request: `requestFor` builds it from a catalog, and
`fetchSession` takes a session through its operations, as a grid would.
-/

namespace GridArguments

def contextFilters (grid : GridArguments) : Except Failure (Option Json) :=
  match grid.context with
  | none => .ok none
  | some text => match Json.read? text with
    | some value => .ok (some value)
    | none => .error (.validation (.invalidContextFilters Json.faultText))

def sortList (grid : GridArguments) : Except Failure (List SortDescriptor) :=
  match grid.sort with
  | none => .ok []
  | some text => ((SortDescriptor.parse text).map ([·])).mapError .validation

def query (grid : GridArguments) (pageSize : Nat) (spec : AggregationSpec) :
    Except Failure GridQuery := do
  let sort ← grid.sortList
  let contextFilters ← grid.contextFilters
  return {
    dataSourceId := spec.dataSourceId
    aggregationId := spec.id.getD ""
    pageSize := grid.pageSize.getD pageSize
    skip := grid.skip
    sort
    contextFilters
    asOf := grid.asOf }

/-- The dashboard's values, null if none are given. -/
def dashboardValue (grid : GridArguments) : Except Failure Json :=
  match grid.dashboard with
  | none => .ok .null
  | some text => match Json.read? text with
    | some value => .ok value
    | none => .error .invalidDashboard

end GridArguments

/-- An editor over a spec's pipeline and the fields that it selects. -/
def openEditor (catalog : Catalog) (resource : Resource) (spec : AggregationSpec) :
    Except Failure Editor := do
  let fields ← (resource.sourceFields catalog spec.sourceFields).mapError .schema
  return .new fields spec.pipeline

/-- What stands in the way of running the pipeline of an editor. -/
def obstacle? (editor : Editor) : Option Failure :=
  match editor.fieldIssues with
  | flaw :: _ => some (.schema flaw)
  | [] => (editor.diagnostics.find? (·.issue.isBlocking)).map .blocked

def requestFor (catalog : Catalog) (resource : Resource) (spec : AggregationSpec)
    (grid : GridArguments) (pageSize : Nat) : Except Failure AggregationRequest := do
  let editor ← openEditor catalog resource spec
  match obstacle? editor with
  | some failure => .error failure
  | none =>
    let dashboard ← grid.dashboardValue
    let query ← grid.query pageSize spec
    (AggregationRequest.build spec editor.outputFields dashboard query).mapError .validation

/-- Goes on with a session after an operation that did not fail. -/
def proceed {ε : Type} (failure : ε → Failure) : Except ε Unit × Session → Except Failure Session
  | (.ok (), session) => .ok session
  | (.error error, _) => .error (failure error)

/-- Takes a session through all operations that a query needs, up to where only
its responses are missing. -/
def fetchSession (source : MetadataSource) (settings : GridSettings) (spec : AggregationSpec)
    (query : GridQuery) (grid : GridArguments) : Except Failure Session := do
  let session := Session.new { settings with pageSize := query.pageSize, debounce := 0 }
  let session ← proceed .validation (session.setInputs
    ⟨spec.dataSourceId, spec, query.contextFilters, query.asOf⟩)
  let dashboard ← grid.dashboardValue
  let session ← proceed .validation (session.setDashboard dashboard)
  let session ← proceed .engine (session.loadColumns source)
  let session ← if query.sort.isEmpty then .ok session
    else proceed .validation (session.setSort query.sort)
  if query.skip = 0 then return session
  else proceed .validation (session.setPage query.skip query.pageSize)

/-- Hands the responses to a session; its grid must not end with an error. -/
def settledGrid (session : Session)
    (respond : AggregationRequest → Except NetworkError AggregationPage) : Except Failure Grid :=
  let grid := (session.settle fun request => .answered (respond request)).2.grid
  if grid.status = .error then .error (.notLoaded (grid.error.getD "Request failed")) else .ok grid

def fieldsReport (editor : Editor) : Json :=
  let severity (d : Diagnostic) := if d.issue.isBlocking then "error" else "warning"
  Json.normal <| .object [
    ("fieldsPerStage", .array (editor.stageFields.perStage.map Field.listToJson)),
    ("output", Field.listToJson editor.outputFields),
    ("unchecked", .bool editor.output.unchecked),
    ("fieldIssues", Json.strings (editor.fieldIssues.map (·.message))),
    ("diagnostics", .array (editor.diagnostics.map fun d =>
      .object [("stage", .ofNat d.stage), ("severity", .string (severity d)),
        ("message", .string d.issue.message)]))]

def pageReport (grid : Grid) : Json :=
  Json.normal <| .object [("columns", Field.listToJson grid.columns),
    ("items", .array grid.items), ("totalCount", .ofNat grid.totalCount),
    ("skip", .ofNat grid.window.skip)]

end Aggregation.CommandLine
