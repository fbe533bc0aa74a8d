import Aggregation.Proofs.Grid.Transcript

namespace Aggregation.Grid

/-! Which sorts reach the backend.

A request is refused unless its sort is among the grid's columns, but the pipeline
that it carries comes from the inputs.  The two agree only after the columns have
been set for these inputs; until then a sort that the earlier pipeline bore goes
out with a pipeline that may not bear it.
-/

/-- Whether a name is that of a top-level scalar. -/
def Sortable (fields : List Field) (name : String) : Prop :=
  ∃ field, Field.find? fields name = some field ∧ field.isScalar = true

/-- Whether a request sorts, if at all, by a scalar that its own pipeline leaves. -/
def SortSupported (sources : List Field) (request : AggregationRequest) : Prop :=
  ∀ name, request.sortField = some name → Sortable (fieldsAfter sources request.pipeline) name

instance (fields : List Field) (name : String) : Decidable (Sortable fields name) :=
  decidable_of_iff ((Field.find? fields name).any Field.isScalar = true) (Option.any_eq_true _ _)

instance (sources : List Field) (request : AggregationRequest) :
    Decidable (SortSupported sources request) :=
  inferInstanceAs (Decidable (∀ name ∈ request.sortField,
    Sortable (fieldsAfter sources request.pipeline) name))

theorem checkSortField_ok_iff {fields : List Field} {name : String} :
    AggregationRequest.checkSortField fields name = .ok () ↔ Sortable fields name := by
  cases found : Field.find? fields name with
  | none => simp [AggregationRequest.checkSortField, Sortable, found]
  | some field => cases scalar : field.isScalar <;>
      simp [AggregationRequest.checkSortField, Sortable, found, scalar]

theorem not_sortable_nil {name : String} : ¬ Sortable [] name := by
  rintro ⟨field, found, -⟩
  simp [Field.find?] at found

namespace Transcript

/-- Columns are set only to what the pipeline of the present inputs leaves. -/
def SetsOwnColumns (sources : List Field) (t : Transcript) : Operation → Prop
  | .setColumns columns => ∃ inputs, t.grid.inputs = some inputs ∧
      columns = fieldsAfter sources inputs.aggregation.pipeline
  | .failMetadata _ => False
  | _ => True

/-- Whether an operation assembles a request by a sort that the pipeline of the
columns bears and the pipeline of the inputs does not. -/
def SortsByStaleColumn (sources : List Field) (t : Transcript) (operation : Operation) : Prop :=
  ∃ prepared debounce inputs loaded name order,
    Prepares t.grid operation prepared debounce ∧ prepared.window.pageSize ≠ 0 ∧
    prepared.inputs = some inputs ∧ prepared.activeSort? = some (name, order) ∧
    t.columnsFor = some loaded ∧ Sortable (fieldsAfter sources loaded) name ∧
    ¬ Sortable (fieldsAfter sources inputs.aggregation.pipeline) name

/-- The columns are those of the pipeline they were last set for, and a request that
can be sent again is one that was issued. -/
structure Tracked (sources : List Field) (t : Transcript) : Prop extends Numbered t where
  columns : t.grid.columns = (t.columnsFor.map (fieldsAfter sources)).getD []
  failed : ∀ request, t.grid.failedRequest = some request →
    ∃ pending ∈ t.issued, pending.request = request

variable {sources : List Field} {t : Transcript} {prepared after : Grid}
  {operation : Operation} {outcome : Outcome} {request : AggregationRequest} {debounce : Nat}

theorem tracked_start (settings : GridSettings) : Tracked sources (start settings) where
  toNumbered := numbered_start settings
  columns := rfl
  failed _ failed := nomatch failed

/-- Assembling a request goes by the columns as they are. -/
theorem Tracked.prepared_columns (tracked : Tracked sources t)
    (prepares : Prepares t.grid operation prepared debounce) (outcome : Outcome) (after : Grid) :
    prepared.columns =
      ((t.record operation outcome after).columnsFor.map (fieldsAfter sources)).getD [] := by
  have kept : (t.record operation outcome after).columnsFor = t.columnsFor := by
    cases prepares <;> rfl
  rw [kept, prepares.columns_eq, tracked.columns]

theorem Tracked.record (tracked : Tracked sources t) (rule : SetsOwnColumns sources t operation)
    (performs : Performs t.grid operation outcome after) :
    Tracked sources (t.record operation outcome after) := by
  have numbered := tracked.toNumbered.record performs
  cases performs with
  | issued prepares built => exact ⟨numbered, tracked.prepared_columns prepares _ _, nofun⟩
  | refused prepares built => exact ⟨numbered, tracked.prepared_columns prepares _ _, nofun⟩
  | resent failed => exact ⟨numbered, tracked.columns, nofun⟩
  | columns =>
      obtain ⟨inputs, given, rfl⟩ := rule
      refine ⟨numbered, ?_, tracked.failed⟩
      simp [Transcript.record, setColumns, given]
  | metadata => exact rule.elim
  | failed =>
      refine ⟨numbered, tracked.columns, ?_⟩
      intro request failed
      have last : t.grid.lastRequest = some request := failed
      rw [tracked.last, Option.map_eq_some_iff] at last
      obtain ⟨pending, latest, same⟩ := last
      exact ⟨pending, List.mem_of_mem_head? latest, same⟩
  | _ => exact ⟨numbered, tracked.columns, tracked.failed⟩

/-- A sort by a stale column is accepted. -/
theorem SortsByStaleColumn.built (stale : SortsByStaleColumn sources t operation)
    (tracked : Tracked sources t) (prepares : Prepares t.grid operation prepared debounce) :
    ∃ request, prepared.buildRequest = .ok request := by
  obtain ⟨_, _, inputs, loaded, name, order, again, sized, given, active, source, sortable, -⟩ :=
    stale
  obtain rfl := prepares.unique again
  refine ⟨_, buildRequest_ok_iff.mpr ⟨inputs, given, sized, ?_, rfl⟩⟩
  rw [prepares.columns_eq, tracked.columns, source, active]
  exact checkSortField_ok_iff.mpr sortable

/-- An assembled request has a sort that its pipeline does not bear just if the
sort is by a stale column. -/
theorem Tracked.sortSupported_iff (tracked : Tracked sources t)
    (prepares : Prepares t.grid operation prepared debounce)
    (built : prepared.buildRequest = .ok request) :
    SortSupported sources request ↔ ¬ SortsByStaleColumn sources t operation := by
  obtain ⟨inputs, given, sized, checked, rfl⟩ := buildRequest_ok_iff.mp built
  constructor
  · rintro supported ⟨_, _, own, loaded, name, order, again, -, present, active, -, -, unsortable⟩
    obtain rfl := prepares.unique again
    obtain rfl := Option.some.inj (given.symm.trans present)
    refine unsortable (supported name ?_)
    change prepared.activeSort?.map (·.1) = some name
    rw [active, Option.map_some]
  · intro fresh name sorted
    change prepared.activeSort?.map (·.1) = some name at sorted
    obtain ⟨⟨_, order⟩, active, rfl⟩ := Option.map_eq_some_iff.mp sorted
    rw [active] at checked
    have sortable := checkSortField_ok_iff.mp checked
    rw [prepares.columns_eq, tracked.columns] at sortable
    cases source : t.columnsFor with
    | none =>
        rw [source] at sortable
        exact (not_sortable_nil sortable).elim
    | some loaded =>
        rw [source] at sortable
        refine Classical.byContradiction fun unsortable => fresh ?_
        exact ⟨prepared, debounce, inputs, loaded, _, order, prepares, sized, given, active,
          source, sortable, unsortable⟩

/-- What one operation does to the sorts that were issued so far. -/
theorem Tracked.sortsSupported_record (tracked : Tracked sources t)
    (performs : Performs t.grid operation outcome after) :
    (∀ pending ∈ (t.record operation outcome after).issued,
        SortSupported sources pending.request) ↔
      (∀ pending ∈ t.issued, SortSupported sources pending.request) ∧
        ¬ SortsByStaleColumn sources t operation := by
  cases performs with
  | issued prepares built =>
      rw [← tracked.sortSupported_iff prepares built, and_comm]
      exact List.forall_mem_cons
  | refused prepares built =>
      refine ⟨fun supported => ⟨supported, fun stale => ?_⟩, And.left⟩
      obtain ⟨request, accepted⟩ := stale.built tracked prepares
      rw [built] at accepted
      contradiction
  | resent failed =>
      -- Sending again assembles nothing, and what is sent was issued before.
      constructor
      · intro supported
        refine ⟨fun pending member => supported pending (List.mem_cons_of_mem _ member), ?_⟩
        rintro ⟨_, _, _, _, _, _, prepares, -⟩
        cases prepares with
        | retry nothing =>
            rw [failed] at nothing
            contradiction
      · rintro ⟨supported, -⟩
        obtain ⟨pending, member, same⟩ := tracked.failed _ failed
        exact List.forall_mem_cons.mpr ⟨same ▸ supported pending member, supported⟩
  | _ =>
      refine ⟨fun supported => ⟨supported, ?_⟩, And.left⟩
      rintro ⟨_, _, _, _, _, _, prepares, -⟩
      cases prepares <;> simp_all

end Transcript

/-- Every request of a run sorts by what its own pipeline bears just if no operation
assembled one by a column that only an earlier pipeline bears. -/
theorem sorts_supported_iff (sources : List Field) (settings : GridSettings)
    (operations : List Operation)
    (follows : Run.Obeys Transcript.after (Transcript.SetsOwnColumns sources)
      (Transcript.start settings) operations) :
    (∀ pending ∈ (Transcript.ofRun settings operations).issued,
        SortSupported sources pending.request) ↔
      ∀ before operation later, operations = before ++ operation :: later →
        ¬ Transcript.SortsByStaleColumn sources (Transcript.ofRun settings before) operation := by
  have step := Run.holds_play_iff
    (fun t => ∀ pending ∈ t.issued, SortSupported sources pending.request)
    (fun t operation tracked rule =>
      Transcript.Tracked.record tracked rule (perform_performs t.grid operation))
    (fun t operation tracked _ =>
      tracked.sortsSupported_record (perform_performs t.grid operation))
    (Transcript.tracked_start settings) follows
  exact ⟨fun supported => (step.mp supported).2, fun fresh => step.mpr ⟨nofun, fresh⟩⟩

def incidentFields : List Field := [.makeScalar "region" "String", .makeScalar "severity" "Int"]

/-- A sort by severity, then an aggregation that leaves nothing but the region. -/
def sortThenGroup : List Operation :=
  [.setInputs { dataSourceId := "incidents" }, .setColumns incidentFields,
    .setSort [⟨"severity", some .desc⟩],
    .setInputs {
      dataSourceId := "incidents"
      aggregation := { pipeline := [.group { groupBy := [{ field := "region" }] }] } }]

theorem sortThenGroup_follows : Run.Obeys Transcript.after
    (Transcript.SetsOwnColumns incidentFields) (Transcript.start {}) sortThenGroup :=
  ⟨trivial, ⟨_, rfl, rfl⟩, trivial, trivial, trivial⟩

/-- The last request of that run still sorts by severity. -/
theorem sortThenGroup_unsupported :
    Run.Obeys Transcript.after (Transcript.SetsOwnColumns incidentFields) (Transcript.start {})
      sortThenGroup ∧
    ∃ pending ∈ (Transcript.ofRun {} sortThenGroup).issued,
      pending.request.sortField = some "severity" ∧
      ¬ SortSupported incidentFields pending.request := by
  refine ⟨sortThenGroup_follows, _, .head _, rfl, ?_⟩
  intro supported
  obtain ⟨field, found, -⟩ := supported "severity" rfl
  have missing : Field.find? (fieldsAfter incidentFields
      [.group { groupBy := [{ field := "region" }] }]) "severity" = none := by decide
  exact Option.some_ne_none field (found.symm.trans missing)

/-- The same sort, then an aggregation that leaves nothing but the severity.  The first
request for it fails, and is sent again once the columns are set. -/
def sortThenKeep : List Operation :=
  [.setInputs { dataSourceId := "incidents" }, .setColumns incidentFields,
    .setSort [⟨"severity", some .desc⟩],
    .setInputs {
      dataSourceId := "incidents"
      aggregation := { pipeline := [.group { groupBy := [{ field := "severity" }] }] } },
    .apply 3 (.error (.timeout 15)),
    .setColumns (fieldsAfter incidentFields [.group { groupBy := [{ field := "severity" }] }]),
    .retry, .apply 4 (.ok ⟨[.null], 30⟩), .setPage 10 20]

theorem sortThenKeep_follows : Run.Obeys Transcript.after
    (Transcript.SetsOwnColumns incidentFields) (Transcript.start {}) sortThenKeep :=
  ⟨trivial, ⟨_, rfl, rfl⟩, trivial, trivial, trivial, ⟨_, rfl, rfl⟩, trivial, trivial, trivial,
    trivial⟩

/-- Both sides hold of the run that keeps the column of its sort, and neither holds of the
run that loses it. -/
theorem sortThenKeep_supported_iff :
    (Run.Obeys Transcript.after (Transcript.SetsOwnColumns incidentFields) (Transcript.start {})
        sortThenKeep ∧
      (Transcript.ofRun {} sortThenKeep).issued.map (·.request.sortField) =
        [some "severity", some "severity", some "severity", some "severity", none] ∧
      (∀ pending ∈ (Transcript.ofRun {} sortThenKeep).issued,
        SortSupported incidentFields pending.request) ∧
      ∀ before operation later, sortThenKeep = before ++ operation :: later →
        ¬ Transcript.SortsByStaleColumn incidentFields (Transcript.ofRun {} before) operation) ∧
    Run.Obeys Transcript.after (Transcript.SetsOwnColumns incidentFields) (Transcript.start {})
        sortThenGroup ∧
      (¬ ∀ pending ∈ (Transcript.ofRun {} sortThenGroup).issued,
        SortSupported incidentFields pending.request) ∧
      ¬ ∀ before operation later, sortThenGroup = before ++ operation :: later →
        ¬ Transcript.SortsByStaleColumn incidentFields (Transcript.ofRun {} before) operation := by
  have kept := sorts_supported_iff incidentFields {} sortThenKeep sortThenKeep_follows
  have lost := sorts_supported_iff incidentFields {} sortThenGroup sortThenGroup_follows
  have supported : ∀ pending ∈ (Transcript.ofRun {} sortThenKeep).issued,
      SortSupported incidentFields pending.request := by decide
  have unsupported : ¬ ∀ pending ∈ (Transcript.ofRun {} sortThenGroup).issued,
      SortSupported incidentFields pending.request := by decide
  exact ⟨⟨sortThenKeep_follows, rfl, supported, kept.mp supported⟩,
    sortThenGroup_follows, unsupported, fun fresh => unsupported (lost.mpr fresh)⟩

end Aggregation.Grid
