import Aggregation.CommandLine.Actions
import Aggregation.Proofs.Except
import Aggregation.Proofs.Session.SingleFetch

namespace Aggregation

/-! What a session asks for while a page is fetched.

Each operation has the whole request built anew, from all that the grid then holds, and
cancels the task for the one before.  So the order of the operations leaves no trace in the
request of the task that remains.
-/

theorem Json.eq_null_of_beq {value : Json} (same : (Json.null == value) = true) :
    value = .null := by
  cases value <;> first | rfl | contradiction

/-- Whether a grid is to show an aggregation over columns by a query. -/
structure Grid.Poses (grid : Grid) (spec : AggregationSpec) (columns : List Field)
    (dashboard : Json) (query : GridQuery) : Prop where
  inputs : ∃ inputs, grid.inputs = some inputs ∧ inputs.aggregation = spec ∧
    grid.query inputs = query
  columns : grid.columns = columns
  dashboard : grid.dashboard = dashboard

namespace Session

/-- Whether the only task of a session is to fetch a request, and is not finished. -/
def Runs (session : Session) (request : AggregationRequest) : Prop :=
  ∃ task, session.Carries task ∧ task.outcome = none ∧ task.pending.request = request

/-- Whether a session fetches the request that its grid has to make. -/
structure Asks (session : Session) (spec : AggregationSpec) (columns : List Field)
    (dashboard : Json) (query : GridQuery) (request : AggregationRequest) : Prop where
  poses : session.grid.Poses spec columns dashboard query
  built : AggregationRequest.build spec columns dashboard query = .ok request
  runs : session.Runs request

end Session

variable {source : MetadataSource} {catalog : Catalog} {resource : Resource}
  {grid prepared : Grid} {session : Session} {spec : AggregationSpec} {columns : List Field}
  {dashboard : Json} {query : GridQuery} {request other : AggregationRequest} {debounce : Nat}

theorem MetadataSource.loadSourceFields_eq {id : String} (served : source.resource id = .ok resource)
    (known : source.catalog = .ok catalog) (names : List String) :
    source.loadSourceFields id names =
      (resource.sourceFields catalog names).mapError .schema := by
  rw [loadSourceFields, served, known]
  rfl

theorem Grid.Poses.buildRequest_eq (poses : grid.Poses spec columns dashboard query) :
    grid.buildRequest = AggregationRequest.build spec columns dashboard query := by
  obtain ⟨⟨inputs, given, rfl, rfl⟩, rfl, rfl⟩ := poses
  simp only [buildRequest, given]

theorem Session.Runs.unique (runs : session.Runs request) (again : session.Runs other) :
    request = other := by
  obtain ⟨task, carries, -, rfl⟩ := runs
  obtain ⟨same, known, -, rfl⟩ := again
  obtain ⟨rfl⟩ := carries.tasks.symm.trans known.tasks
  rfl

theorem Session.Runs.tidy (runs : session.Runs request) :
    session.tasks = [] → session.seqs = [] := by
  obtain ⟨task, carries, -⟩ := runs
  exact carries.tidy

namespace AggregationRequest

theorem build_of_unsorted (sized : query.pageSize ≠ 0) (unsorted : query.sort = []) :
    build spec columns dashboard query = .ok (assemble spec dashboard query) := by
  have inactive : query.activeSort? = none := by
    rw [GridQuery.activeSort?, unsorted]
    rfl
  exact build_eq_ok_iff.mpr ⟨sized, by rw [inactive]; rfl, rfl⟩

/-- No page is refused whose first one is not. -/
theorem build_eq_bind_first (spec : AggregationSpec) (columns : List Field) (dashboard : Json)
    (query : GridQuery) :
    build spec columns dashboard query =
      build spec columns dashboard { query with skip := 0 } >>= fun _ =>
        build spec columns dashboard query := by
  simp only [build, show { query with skip := 0 }.activeSort? = query.activeSort? from rfl]
  split
  · rfl
  · split <;> rfl

end AggregationRequest

namespace CommandLine

/-- An operation that has a request built goes on just if it can be built, and the session
then fetches it. -/
theorem inStep_submit_issue (tidy : session.tasks = [] → session.seqs = [])
    (poses : prepared.Poses spec columns dashboard query) :
    InStep (Session.Asks · spec columns dashboard query ·)
      (proceed .validation (session.submit (prepared.issue debounce)))
      (AggregationRequest.build spec columns dashboard query) := by
  have same := poses.buildRequest_eq
  cases built : AggregationRequest.build spec columns dashboard query with
  | error error =>
      simp only [Grid.issue, same, built, Session.submit, proceed]
      exact .failed
  | ok request =>
      simp only [Grid.issue, same, built, Session.submit, proceed]
      rw [Session.dispatch_eq { session with grid := (prepared.track request debounce).2 } _ tidy]
      refine .done ⟨⟨poses.inputs, poses.columns, poses.dashboard⟩, built, ?_⟩
      exact ⟨_, ⟨rfl, rfl, Nat.lt_succ_self _, rfl, rfl⟩, rfl, rfl⟩

theorem inStep_setInputs (settings : GridSettings) (spec : AggregationSpec)
    (contextFilters : Option Json) (asOf : Option String) :
    let query : GridQuery := ⟨spec.dataSourceId, spec.id.getD "", settings.pageSize, 0, [],
      contextFilters, asOf⟩
    InStep (Session.Asks · spec [] .null query ·)
      (proceed .validation ((Session.new settings).setInputs
        ⟨spec.dataSourceId, spec, contextFilters, asOf⟩))
      (AggregationRequest.build spec [] .null query) :=
  inStep_submit_issue (fun _ => rfl) ⟨⟨_, rfl, rfl, rfl⟩, rfl, rfl⟩

/-- A dashboard that is null, as it was, has nothing built anew. -/
theorem inStep_setDashboard (asks : session.Asks spec columns .null query request)
    (first : query.skip = 0) (dashboard : Json) :
    InStep (Session.Asks · spec columns dashboard query ·)
      (proceed .validation (session.setDashboard dashboard))
      (AggregationRequest.build spec columns dashboard query) := by
  obtain ⟨⟨⟨inputs, given, rfl, rfl⟩, rfl, null⟩, built, runs⟩ := asks
  cases same : session.grid.dashboard == dashboard with
  | true =>
      obtain rfl := Json.eq_null_of_beq (null ▸ same)
      simp only [Session.setDashboard, Grid.setDashboard, same, Session.submit, proceed, built]
      exact .done ⟨⟨⟨inputs, given, rfl, rfl⟩, rfl, null⟩, built, runs⟩
  | false =>
      let prepared : Grid :=
        { session.grid with dashboard, window := { session.grid.window with skip := 0 } }
      have issued : session.setDashboard dashboard =
          session.submit (prepared.issue session.grid.settings.debounce) := by
        simp [Session.setDashboard, Grid.setDashboard, same, given, prepared]
      rw [issued]
      exact inStep_submit_issue runs.tidy ⟨⟨inputs, given, rfl,
        congrArg (fun skip => { session.grid.query inputs with skip }) first.symm⟩, rfl, rfl⟩

/-- New columns leave a request alone that is not sorted. -/
theorem inStep_loadColumns (asks : session.Asks spec columns dashboard query request)
    (unsorted : query.sort = [])
    (served : source.resource query.dataSourceId = .ok resource)
    (known : source.catalog = .ok catalog) :
    InStep (fun next fields =>
        next.Asks spec (fieldsAfter fields spec.pipeline) dashboard query request)
      (proceed .engine (session.loadColumns source))
      ((resource.sourceFields catalog spec.sourceFields).mapError Failure.schema) := by
  obtain ⟨⟨⟨inputs, given, rfl, rfl⟩, rfl, rfl⟩, built, task, carries, running, same⟩ := asks
  obtain ⟨sized, -, rfl⟩ := AggregationRequest.build_eq_ok_iff.mp built
  have loads : source.loadSourceFields inputs.dataSourceId inputs.aggregation.sourceFields = _ :=
    MetadataSource.loadSourceFields_eq served known _
  simp only [Session.loadColumns, given, loads]
  refine .mapError ?_
  cases resource.sourceFields catalog inputs.aggregation.sourceFields with
  | error error => exact .failed
  | ok fields =>
      refine .done ⟨⟨⟨inputs, given, rfl, rfl⟩, rfl, rfl⟩,
        AggregationRequest.build_of_unsorted sized unsorted, task, ?_, running, same⟩
      exact ⟨carries.tasks, carries.seqs, carries.started, carries.seq, carries.request⟩

theorem inStep_setSort (asks : session.Asks spec columns dashboard
    { query with sort := [], skip := 0 } request) :
    InStep (Session.Asks · spec columns dashboard { query with skip := 0 } ·)
      (if query.sort.isEmpty then .ok session
        else proceed .validation (session.setSort query.sort))
      (AggregationRequest.build spec columns dashboard { query with skip := 0 }) := by
  obtain ⟨dataSourceId, aggregationId, pageSize, skip, sort, contextFilters, asOf⟩ := query
  cases sort with
  | nil =>
      rw [asks.built]
      exact .done asks
  | cons first rest =>
      obtain ⟨⟨⟨inputs, given, rfl, same⟩, rfl, rfl⟩, -, runs⟩ := asks
      exact inStep_submit_issue runs.tidy ⟨⟨inputs, given, rfl,
        congrArg (fun query => { query with sort := first :: rest, skip := 0 }) same⟩, rfl, rfl⟩

theorem inStep_setPage (asks : session.Asks spec columns dashboard { query with skip := 0 }
    request) :
    InStep (Session.Asks · spec columns dashboard query ·)
      (if query.skip = 0 then .ok session
        else proceed .validation (session.setPage query.skip query.pageSize))
      (AggregationRequest.build spec columns dashboard query) := by
  obtain ⟨dataSourceId, aggregationId, pageSize, skip, sort, contextFilters, asOf⟩ := query
  cases skip with
  | zero =>
      rw [asks.built]
      exact .done asks
  | succ skip =>
      obtain ⟨⟨⟨inputs, given, rfl, same⟩, rfl, rfl⟩, -, runs⟩ := asks
      exact inStep_submit_issue runs.tidy ⟨⟨inputs, given, rfl,
        congrArg (fun query => { query with skip := skip + 1, pageSize }) same⟩, rfl, rfl⟩

end CommandLine

end Aggregation
