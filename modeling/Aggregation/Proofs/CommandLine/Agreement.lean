import Aggregation.Proofs.Catalog.Expansion
import Aggregation.Proofs.CommandLine.Asking
import Aggregation.Proofs.Editor.Validity

namespace Aggregation.CommandLine

/-! What the two ways to a request have in common.

A session that was taken through the operations of a fetch runs the request that one call
would have built from the fields, the dashboard and the query.  The command that prints a
request makes that call too, but only where nothing obstructs the pipeline.
-/

/-- The request that is built at once, whatever stands in the way of running it. -/
def plainRequest (catalog : Catalog) (resource : Resource) (spec : AggregationSpec)
    (query : GridQuery) (grid : GridArguments) : Except Failure AggregationRequest := do
  let dashboard ← grid.dashboardValue
  let fields ← (resource.sourceFields catalog spec.sourceFields).mapError .schema
  (AggregationRequest.build spec (fieldsAfter fields spec.pipeline) dashboard query).mapError
    .validation

/-- Whether a fetch gets through its operations, and then runs a request. -/
def Fetches (source : MetadataSource) (settings : GridSettings) (spec : AggregationSpec)
    (grid : GridArguments) (request : AggregationRequest) : Prop :=
  ∃ query session, grid.query settings.pageSize spec = .ok query ∧
    fetchSession source settings spec query grid = .ok session ∧ session.Runs request

/-- Whether nothing stands in the way of a pipeline, as its editor sees it. -/
def Unobstructed (catalog : Catalog) (resource : Resource) (spec : AggregationSpec) : Prop :=
  ∀ editor, openEditor catalog resource spec = .ok editor → obstacle? editor = none

variable {source : MetadataSource} {catalog : Catalog} {resource : Resource}
  {settings : GridSettings} {spec : AggregationSpec} {grid : GridArguments} {query : GridQuery}
  {pageSize : Nat} {session : Session} {request : AggregationRequest} {editor : Editor}

theorem ids_of_query (asked : grid.query pageSize spec = .ok query) :
    query.dataSourceId = spec.dataSourceId ∧ query.aggregationId = spec.id.getD "" := by
  obtain ⟨sort, -, asked⟩ := exists_of_bind_eq_ok asked
  obtain ⟨contextFilters, -, asked⟩ := exists_of_bind_eq_ok asked
  cases asked
  exact ⟨rfl, rfl⟩

/-- The operations of a fetch keep step with the parts of the plain request. -/
theorem fetchSession_inStep (served : source.resource spec.dataSourceId = .ok resource)
    (known : source.catalog = .ok catalog) (asked : grid.query settings.pageSize spec = .ok query)
    (sized : query.pageSize ≠ 0) :
    InStep Session.Runs (fetchSession source settings spec query grid)
      (plainRequest catalog resource spec query grid) := by
  obtain ⟨dataSource, aggregation⟩ := ids_of_query asked
  -- Up to the columns, no operation can fail but for the metadata.
  have unsorted (dashboard : Json) : ∃ request, AggregationRequest.build spec [] dashboard
      { query with sort := [], skip := 0 } = .ok request :=
    ⟨_, AggregationRequest.build_of_unsorted sized rfl⟩
  have setInputs := inStep_setInputs { settings with pageSize := query.pageSize, debounce := 0 }
    spec query.contextFilters query.asOf
  rw [← dataSource, ← aggregation] at setInputs
  obtain ⟨_, built⟩ := unsorted .null
  obtain ⟨_, given, asks⟩ := setInputs.exists_left built
  rw [fetchSession, ← dataSource, given]
  refine (InStep.same grid.dashboardValue).bind ?_
  rintro dashboard _ rfl
  obtain ⟨_, built⟩ := unsorted dashboard
  obtain ⟨_, applied, asks⟩ := (inStep_setDashboard asks rfl dashboard).exists_left built
  rw [applied]
  refine (inStep_loadColumns asks rfl (dataSource ▸ served) known).bind ?_
  intro _ fields asks
  refine .mapError ?_
  rw [AggregationRequest.build_eq_bind_first]
  have sorted := inStep_setSort asks
  -- The page comes after either way to the sort.
  split at sorted
  all_goals
    next sort =>
      simp only [sort]
      refine sorted.bind ?_
      intro _ _ asks
      exact (inStep_setPage asks).imp fun _ _ asks => asks.runs

theorem sized_of_fetchSession
    (completed : fetchSession source settings spec query grid = .ok session) :
    query.pageSize ≠ 0 := by
  obtain ⟨_, given, -⟩ := exists_of_bind_eq_ok completed
  have setInputs := inStep_setInputs { settings with pageSize := query.pageSize, debounce := 0 }
    spec query.contextFilters query.asOf
  obtain ⟨_, built, -⟩ := setInputs.exists_right given
  exact (AggregationRequest.build_eq_ok_iff.mp built).1

theorem plainRequest_eq_ok_iff :
    plainRequest catalog resource spec query grid = .ok request ↔
      ∃ dashboard fields, grid.dashboardValue = .ok dashboard ∧
        resource.sourceFields catalog spec.sourceFields = .ok fields ∧
        AggregationRequest.build spec (fieldsAfter fields spec.pipeline) dashboard query =
          .ok request := by
  constructor
  · intro planned
    obtain ⟨dashboard, parsed, planned⟩ := exists_of_bind_eq_ok planned
    obtain ⟨fields, selected, built⟩ := exists_of_bind_eq_ok planned
    exact ⟨dashboard, fields, parsed, mapError_eq_ok_iff.mp selected, mapError_eq_ok_iff.mp built⟩
  · rintro ⟨dashboard, fields, parsed, selected, built⟩
    rw [plainRequest, parsed, selected]
    exact mapError_eq_ok_iff.mpr built

/-- A fetch runs the plain request, and none else. -/
theorem fetches_iff (served : source.resource spec.dataSourceId = .ok resource)
    (known : source.catalog = .ok catalog) :
    Fetches source settings spec grid request ↔
      ∃ query, grid.query settings.pageSize spec = .ok query ∧
        plainRequest catalog resource spec query grid = .ok request := by
  constructor
  · rintro ⟨query, session, asked, completed, runs⟩
    obtain ⟨other, planned, last⟩ := (fetchSession_inStep served known asked
      (sized_of_fetchSession completed)).exists_right completed
    obtain rfl := runs.unique last
    exact ⟨query, asked, planned⟩
  · rintro ⟨query, asked, planned⟩
    obtain ⟨_, _, -, -, built⟩ := plainRequest_eq_ok_iff.mp planned
    have sized := (AggregationRequest.build_eq_ok_iff.mp built).1
    obtain ⟨session, completed, runs⟩ :=
      (fetchSession_inStep served known asked sized).exists_left planned
    exact ⟨query, session, asked, completed, runs⟩

theorem openEditor_eq_ok_iff :
    openEditor catalog resource spec = .ok editor ↔
      ∃ fields, resource.sourceFields catalog spec.sourceFields = .ok fields ∧
        editor = .new fields spec.pipeline := by
  constructor
  · intro opened
    obtain ⟨fields, selected, opened⟩ := exists_of_bind_eq_ok opened
    cases opened
    exact ⟨fields, mapError_eq_ok_iff.mp selected, rfl⟩
  · rintro ⟨fields, selected, rfl⟩
    rw [openEditor, selected]
    rfl

theorem requestFor_of_obstacle {failure : Failure}
    (opened : openEditor catalog resource spec = .ok editor)
    (obstructed : obstacle? editor = some failure) :
    requestFor catalog resource spec grid pageSize = .error failure := by
  simp only [requestFor, opened, bind, Except.bind, obstructed]

/-- The command that prints a request prints the plain one, if nothing obstructs it. -/
theorem requestFor_eq_ok_iff :
    requestFor catalog resource spec grid pageSize = .ok request ↔
      (∃ query, grid.query pageSize spec = .ok query ∧
        plainRequest catalog resource spec query grid = .ok request) ∧
      Unobstructed catalog resource spec := by
  constructor
  · intro printed
    obtain ⟨editor, opened, printed⟩ := exists_of_bind_eq_ok printed
    obtain ⟨fields, selected, rfl⟩ := openEditor_eq_ok_iff.mp opened
    split at printed
    · contradiction
    · next free =>
      obtain ⟨dashboard, parsed, printed⟩ := exists_of_bind_eq_ok printed
      obtain ⟨query, asked, built⟩ := exists_of_bind_eq_ok printed
      rw [mapError_eq_ok_iff, Editor.outputFields_new] at built
      refine ⟨⟨query, asked, plainRequest_eq_ok_iff.mpr ?_⟩, ?_⟩
      · exact ⟨dashboard, fields, parsed, selected, built⟩
      · intro other again
        cases opened.symm.trans again
        exact free
  · rintro ⟨⟨query, asked, planned⟩, free⟩
    obtain ⟨dashboard, fields, parsed, selected, built⟩ := plainRequest_eq_ok_iff.mp planned
    have opened : openEditor catalog resource spec = .ok (.new fields spec.pipeline) :=
      openEditor_eq_ok_iff.mpr ⟨fields, selected, rfl⟩
    simp only [requestFor, opened, bind, Except.bind, free _ opened, parsed, asked,
      Editor.outputFields_new]
    exact mapError_eq_ok_iff.mpr built

/-- With a backend that serves the given resource and catalog, `request` prints just what
`fetch` runs and nothing obstructs.  So the two agree just if nothing obstructs a pipeline that
is fetched.  A fetch that gets through its operations runs one request, and no other. -/
theorem commands_agree_iff (source : MetadataSource) (catalog : Catalog) (resource : Resource)
    (settings : GridSettings) (spec : AggregationSpec) (grid : GridArguments)
    (served : source.resource spec.dataSourceId = .ok resource)
    (known : source.catalog = .ok catalog) :
    let prints request := requestFor catalog resource spec grid settings.pageSize = .ok request
    let fetches := Fetches source settings spec grid
    (∀ request, prints request ↔ fetches request ∧ Unobstructed catalog resource spec) ∧
    ((∀ request, prints request ↔ fetches request) ↔
      ((∃ request, fetches request) → Unobstructed catalog resource spec)) ∧
    (∀ request other, fetches request → fetches other → request = other) ∧
    ∀ query session, grid.query settings.pageSize spec = .ok query →
      fetchSession source settings spec query grid = .ok session →
        ∃ request, session.Runs request ∧ fetches request := by
  intro prints fetches
  have printed (request : AggregationRequest) :
      prints request ↔ fetches request ∧ Unobstructed catalog resource spec := by
    rw [show prints request ↔ _ from requestFor_eq_ok_iff,
      show fetches request ↔ _ from fetches_iff served known]
  refine ⟨printed, ⟨?_, ?_⟩, ?_, ?_⟩
  · rintro agree ⟨request, fetched⟩
    exact ((printed request).mp ((agree request).mpr fetched)).2
  · intro free request
    rw [printed]
    exact and_iff_left_of_imp fun fetched => free ⟨request, fetched⟩
  · intro request other fetched again
    obtain ⟨query, asked, planned⟩ := (fetches_iff served known).mp fetched
    obtain ⟨same, likewise, repeated⟩ := (fetches_iff served known).mp again
    cases asked.symm.trans likewise
    exact Except.ok.inj (planned.symm.trans repeated)
  · intro query session asked completed
    obtain ⟨request, -, runs⟩ := (fetchSession_inStep served known asked
      (sized_of_fetchSession completed)).exists_right completed
    exact ⟨request, runs, query, session, asked, completed, runs⟩

def teamResource : Resource := ⟨"teams", "Team", some "allTeams"⟩

def teamSource : MetadataSource where
  resource _ := .ok teamResource
  catalog := .ok Catalog.teams

/-- A spec on teams with their names and leads. -/
def teamSpec (pipeline : List Stage) : AggregationSpec :=
  { dataSourceId := "teams", sourceFields := ["name", "lead"], pipeline }

/-- The third page by name, with filters and a dashboard. -/
def thirdPage : GridArguments :=
  { skip := 20, sort := some "name:desc", context := some "[\"red\"]", dashboard := some "true" }

theorem thirdPage_of_leads_fetched :
    let request : AggregationRequest := ⟨"teams", "", [.unwind "lead"], ["name", "lead"], 10, 20,
      some "name", some .desc, some (.array [.string "red"]), none⟩
    teamSource.resource "teams" = .ok teamResource ∧ teamSource.catalog = .ok Catalog.teams ∧
      requestFor Catalog.teams teamResource (teamSpec [.unwind "lead"]) thirdPage 10 =
        .ok request ∧
      Fetches teamSource {} (teamSpec [.unwind "lead"]) thirdPage request := by
  intro request
  let query : GridQuery := ⟨"teams", "", 10, 20, [⟨"name", some .desc⟩],
    some (.array [.string "red"]), none⟩
  have asked : thirdPage.query 10 (teamSpec [.unwind "lead"]) = .ok query := by
    with_unfolding_all rfl
  have planned : plainRequest Catalog.teams teamResource (teamSpec [.unwind "lead"]) query
      thirdPage = .ok request := by
    with_unfolding_all rfl
  have free : Unobstructed Catalog.teams teamResource (teamSpec [.unwind "lead"]) := by
    intro editor opened
    cases opened
    decide +kernel
  have printed := requestFor_eq_ok_iff.mpr ⟨⟨query, asked, planned⟩, free⟩
  obtain ⟨agree, -⟩ := commands_agree_iff teamSource Catalog.teams teamResource {}
    (teamSpec [.unwind "lead"]) thirdPage rfl rfl
  exact ⟨rfl, rfl, printed, ((agree request).mp printed).1⟩

/-- A sort by an unknown field keeps the request from being printed, and it is fetched all
the same. -/
theorem ghost_sort_fetched :
    requestFor Catalog.teams teamResource (teamSpec [.sort "ghost" .asc]) {} 10 =
        .error (.blocked ⟨0, .schema (.unknownField "ghost")⟩) ∧
      Fetches teamSource {} (teamSpec [.sort "ghost" .asc]) {}
        ⟨"teams", "", [.sort "ghost" .asc], ["name", "lead"], 10, 0, none, none, none, none⟩ := by
  constructor
  · refine requestFor_of_obstacle rfl ?_
    decide +kernel
  · exact (fetches_iff rfl rfl).mpr ⟨_, rfl, rfl⟩

end Aggregation.CommandLine
