import Aggregation.Grid

namespace Aggregation

/-! What an operation does to a grid.

`Performs` lists all that can happen, one rule for each way an operation can go,
and `perform_performs` says that nothing else does.  Six operations ask for a
request; `Prepares` says which of them assemble one anew, and for which grid.
-/

theorem AggregationRequest.build_eq_ok_iff {spec : AggregationSpec} {outputFields : List Field}
    {dashboard : Json} {query : GridQuery} {request : AggregationRequest} :
    build spec outputFields dashboard query = .ok request ↔
      query.pageSize ≠ 0 ∧ checkSort outputFields query.activeSort? = .ok () ∧
        request = assemble spec dashboard query := by
  by_cases empty : query.pageSize = 0
  · simp [build, empty]
  · cases checked : checkSort outputFields query.activeSort? with
    | error error => simp [build, empty, checked]
    | ok _ => simp [build, empty, checked, eq_comm]

namespace Grid

/-- What a caller can do to a grid. -/
inductive Operation where
  | setInputs (inputs : GridInputs)
  | setDashboard (dashboard : Json)
  | setColumns (columns : List Field)
  | load
  | setSort (sort : List SortDescriptor)
  | setPage (skip take : Nat)
  | retry
  | failMetadata (error : EngineError)
  | apply (seq : Nat) (response : Except NetworkError AggregationPage)

inductive Outcome where
  | asked (issue : Issue)
  | answered (event : GridEvent)
  | done

def Issue.pending? : Issue → Option PendingRequest
  | .issued pending => some pending
  | _ => none

def Outcome.pending? : Outcome → Option PendingRequest
  | .asked issue => issue.pending?
  | _ => none

def perform (grid : Grid) : Operation → Outcome × Grid
  | .setInputs inputs => (grid.setInputs inputs).map .asked id
  | .setDashboard dashboard => (grid.setDashboard dashboard).map .asked id
  | .setColumns columns => (.done, grid.setColumns columns)
  | .load => grid.load.map .asked id
  | .setSort sort => (grid.setSort sort).map .asked id
  | .setPage skip take => (grid.setPage skip take).map .asked id
  | .retry => grid.retry.map .asked id
  | .failMetadata error => (.done, grid.failMetadata error)
  | .apply seq response => (grid.apply seq response).map .answered id

/-- The request for the grid's own inputs, dashboard, sort and window, whether or
not its columns bear the sort. -/
def wanted (grid : Grid) (inputs : GridInputs) : AggregationRequest :=
  AggregationRequest.assemble inputs.aggregation grid.dashboard (grid.query inputs)

/-- The column to sort by, with its direction. -/
def activeSort? (grid : Grid) : Option (String × SortOrder) :=
  grid.sort.findSome? fun sort => sort.dir.map fun dir => (sort.field, dir)

variable {grid prepared after : Grid} {operation : Operation} {debounce : Nat}
  {request : AggregationRequest}

theorem buildRequest_ok_iff :
    grid.buildRequest = .ok request ↔
      ∃ inputs, grid.inputs = some inputs ∧ grid.window.pageSize ≠ 0 ∧
        AggregationRequest.checkSort grid.columns grid.activeSort? = .ok () ∧
        request = grid.wanted inputs := by
  cases given : grid.inputs with
  | none => simp [buildRequest, given]
  | some inputs =>
      simp only [buildRequest, given, Option.some.injEq, exists_eq_left']
      exact AggregationRequest.build_eq_ok_iff

/-- The operations that assemble a request, with the grid they assemble it for and
the time it is to wait. -/
inductive Prepares (grid : Grid) : Operation → Grid → Nat → Prop
  | setInputs {inputs : GridInputs} (changed : (grid.inputs == some inputs) = false) :
      Prepares grid (.setInputs inputs)
        { grid with inputs := some inputs, window := { grid.window with skip := 0 } } 0
  | setDashboard {dashboard : Json} (changed : (grid.dashboard == dashboard) = false)
      (given : grid.inputs ≠ none) :
      Prepares grid (.setDashboard dashboard)
        { grid with dashboard, window := { grid.window with skip := 0 } } grid.settings.debounce
  | load : Prepares grid .load grid 0
  | setSort {sort : List SortDescriptor} :
      Prepares grid (.setSort sort)
        { grid with sort, window := { grid.window with skip := 0 } } 0
  | setPage {skip take : Nat} :
      Prepares grid (.setPage skip take) { grid with window := ⟨skip, take⟩ } 0
  | retry (nothing : grid.failedRequest = none) : Prepares grid .retry grid 0

/-- Preparing a request settles what to ask for and touches nothing else. -/
theorem Prepares.frame (prepares : Prepares grid operation prepared debounce) :
    prepared = { grid with
      inputs := prepared.inputs
      dashboard := prepared.dashboard
      sort := prepared.sort
      window := prepared.window } := by
  cases prepares <;> rfl

theorem Prepares.seq_eq (prepares : Prepares grid operation prepared debounce) :
    prepared.seq = grid.seq := by
  rw [prepares.frame]

theorem Prepares.columns_eq (prepares : Prepares grid operation prepared debounce) :
    prepared.columns = grid.columns := by
  rw [prepares.frame]

/-- All ways in which an operation can go. -/
inductive Performs (grid : Grid) : Operation → Outcome → Grid → Prop
  | issued {operation : Operation} {prepared : Grid} {debounce : Nat}
      {request : AggregationRequest} (prepares : Prepares grid operation prepared debounce)
      (built : prepared.buildRequest = .ok request) :
      Performs grid operation (.asked (.issued (prepared.track request debounce).1))
        (prepared.track request debounce).2
  | refused {operation : Operation} {prepared : Grid} {debounce : Nat}
      {error : ValidationError} (prepares : Prepares grid operation prepared debounce)
      (built : prepared.buildRequest = .error error) :
      Performs grid operation (.asked (.refused error)) (prepared.refuse error)
  | resent {request : AggregationRequest} (failed : grid.failedRequest = some request) :
      Performs grid .retry
        (.asked (.issued ({ grid with window := ⟨request.skip, request.first⟩ }.track request 0).1))
        ({ grid with window := ⟨request.skip, request.first⟩ }.track request 0).2
  | sameInputs {inputs : GridInputs} (same : (grid.inputs == some inputs) = true) :
      Performs grid (.setInputs inputs) (.asked .nothing) grid
  | sameDashboard {dashboard : Json} (same : (grid.dashboard == dashboard) = true) :
      Performs grid (.setDashboard dashboard) (.asked .nothing) grid
  | keptDashboard {dashboard : Json} (missing : grid.inputs = none) :
      Performs grid (.setDashboard dashboard) (.asked .nothing) { grid with dashboard }
  | columns {columns : List Field} :
      Performs grid (.setColumns columns) .done (grid.setColumns columns)
  | metadata {error : EngineError} :
      Performs grid (.failMetadata error) .done (grid.failMetadata error)
  | discarded {seq : Nat} {response : Except NetworkError AggregationPage}
      (stale : seq ≠ grid.seq) :
      Performs grid (.apply seq response) (.answered (.discarded seq)) grid
  | applied {page : AggregationPage} :
      Performs grid (.apply grid.seq (.ok page)) (.answered (.applied grid.seq))
        (grid.applyPage page)
  | failed {failure : NetworkError} :
      Performs grid (.apply grid.seq (.error failure))
        (.answered (.failed grid.seq failure.banner)) (grid.applyFailure failure)

theorem Prepares.unique {other : Grid} {delay : Nat}
    (prepares : Prepares grid operation prepared debounce)
    (again : Prepares grid operation other delay) : prepared = other := by
  cases prepares <;> cases again <;> rfl

theorem Prepares.perform_eq (prepares : Prepares grid operation prepared debounce) :
    grid.perform operation = (prepared.issue debounce).map .asked id := by
  cases prepares with
  | setInputs changed => simp [perform, Grid.setInputs, changed, Grid.load]
  | setDashboard changed given => simp [perform, Grid.setDashboard, changed, given]
  | retry nothing => simp [perform, Grid.retry, nothing, Grid.load]
  | _ => rfl

/-- An operation that assembles a request issues it or refuses it. -/
theorem Prepares.performs (prepares : Prepares grid operation prepared debounce) :
    Performs grid operation (grid.perform operation).1 (grid.perform operation).2 := by
  rw [prepares.perform_eq]
  cases built : prepared.buildRequest with
  | ok request =>
      simp only [issue, built]
      exact .issued prepares built
  | error error =>
      simp only [issue, built]
      exact .refused prepares built

/-- Nothing else can happen. -/
theorem perform_performs (grid : Grid) (operation : Operation) :
    Performs grid operation (grid.perform operation).1 (grid.perform operation).2 := by
  cases operation with
  | setInputs inputs =>
      cases same : grid.inputs == some inputs with
      | true => simpa [perform, setInputs, same] using Performs.sameInputs same
      | false => exact (Prepares.setInputs same).performs
  | setDashboard dashboard =>
      cases same : grid.dashboard == dashboard with
      | true => simpa [perform, setDashboard, same] using Performs.sameDashboard same
      | false =>
          by_cases missing : grid.inputs = none
          · simpa [perform, setDashboard, same, missing] using Performs.keptDashboard missing
          · exact (Prepares.setDashboard same missing).performs
  | setColumns columns => exact .columns
  | load => exact Prepares.load.performs
  | setSort sort => exact Prepares.setSort.performs
  | setPage skip take => exact Prepares.setPage.performs
  | retry =>
      cases failed : grid.failedRequest with
      | none => exact (Prepares.retry failed).performs
      | some request => simpa [perform, retry, failed] using Performs.resent failed
  | failMetadata error => exact .metadata
  | apply seq response =>
      by_cases latest : seq = grid.seq
      · subst latest
        cases response with
        | ok page => simpa [perform, apply] using Performs.applied
        | error failure => simpa [perform, apply] using Performs.failed
      · simpa [perform, apply, latest] using Performs.discarded latest

/-- An issued request carries the next number, which the grid then waits for; a
refused one uses it up; whatever asks for nothing changes neither the number nor
the last request. -/
def Outcome.Numbers (before after : Grid) : Outcome → Prop
  | .asked (.issued pending) =>
    pending.seq = before.seq + 1 ∧ after.seq = before.seq + 1 ∧
      after.lastRequest = some pending.request ∧ after.status = .loading
  | .asked (.refused _) =>
    after.seq = before.seq + 1 ∧ after.lastRequest = before.lastRequest ∧ after.status = .error
  | .asked .nothing =>
    after.seq = before.seq ∧ after.lastRequest = before.lastRequest ∧
      after.status = before.status
  | _ => after.seq = before.seq ∧ after.lastRequest = before.lastRequest

theorem Performs.numbers {outcome : Outcome} (performs : Performs grid operation outcome after) :
    outcome.Numbers grid after := by
  cases performs with
  | issued prepares built =>
      rw [prepares.frame]
      exact ⟨rfl, rfl, rfl, rfl⟩
  | refused prepares built =>
      rw [prepares.frame]
      exact ⟨rfl, rfl, rfl⟩
  | resent failed => exact ⟨rfl, rfl, rfl, rfl⟩
  | sameInputs same => exact ⟨rfl, rfl, rfl⟩
  | sameDashboard same => exact ⟨rfl, rfl, rfl⟩
  | keptDashboard missing => exact ⟨rfl, rfl, rfl⟩
  | _ => exact ⟨rfl, rfl⟩

theorem Performs.seq_le (performs : Performs grid operation outcome after) :
    grid.seq ≤ after.seq := by
  have numbers := performs.numbers
  match outcome, numbers with
  | .asked (.issued _), ⟨_, seq, _⟩ => omega
  | .asked (.refused _), ⟨seq, _⟩ => omega
  | .asked .nothing, ⟨seq, _⟩ => omega
  | .answered _, ⟨seq, _⟩ => omega
  | .done, ⟨seq, _⟩ => omega

end Grid

end Aggregation
