import Aggregation.Request
import Aggregation.Proofs.Propagation.Offered

namespace Aggregation

/-! One rule for sorts, kept in three places.

What can be sorted by is checked where a stage sorts, where its form offers fields, and
where a request for a page sorts the output.  A stage looks up one field and a request
does the same, but the form lists all scalars.  That comes to the same only because no
two fields have one name.
-/

namespace AggregationRequest

variable {fields : List Field} {name : String} {spec : AggregationSpec} {dashboard : Json}
  {query : GridQuery}

theorem checkSortField_of_find?_none (absent : Field.find? fields name = none) :
    checkSortField fields name = .error (.sortFieldMissing name) := by
  rw [checkSortField, absent]

theorem checkSortField_of_find?_some {field : Field}
    (found : Field.find? fields name = some field) :
    checkSortField fields name =
      if field.isScalar then .ok () else .error (.sortFieldNotScalar name) := by
  rw [checkSortField, found]

theorem checkSortField_cases (fields : List Field) (name : String) :
    checkSortField fields name = .ok () ∨
      checkSortField fields name = .error (.sortFieldMissing name) ∨
      checkSortField fields name = .error (.sortFieldNotScalar name) := by
  cases found : Field.find? fields name with
  | none => exact .inr (.inl (checkSortField_of_find?_none found))
  | some field =>
      rw [checkSortField_of_find?_some found]
      split
      · exact .inl rfl
      · exact .inr (.inr rfl)

/-- Over distinct names, a field passes just if it is listed among the scalars. -/
theorem checkSortField_eq_ok_iff (distinct : (Field.names fields).Nodup) :
    checkSortField fields name = .ok () ↔
      ∃ field ∈ fields.filter (·.isScalar), field.name = name := by
  constructor
  · intro passed
    cases found : Field.find? fields name with
    | none =>
        rw [checkSortField_of_find?_none found] at passed
        contradiction
    | some field =>
        rw [checkSortField_of_find?_some found] at passed
        split at passed
        · next scalar =>
          exact ⟨field, List.mem_filter.mpr ⟨Field.mem_of_find? found, scalar⟩,
            Field.name_of_find? found⟩
        · contradiction
  · rintro ⟨field, listed, rfl⟩
    obtain ⟨member, scalar⟩ := List.mem_filter.mp listed
    rw [checkSortField_of_find?_some (Field.find?_name distinct member), if_pos scalar]

/-- A query with a page size and a sort is refused for nothing but the sort. -/
theorem build_of_sorted (positive : 0 < query.pageSize)
    (sorted : query.activeSort?.map (·.1) = some name) :
    build spec fields dashboard query =
      (checkSortField fields name).map fun _ => assemble spec dashboard query := by
  obtain ⟨⟨field, order⟩, active, rfl⟩ := Option.map_eq_some_iff.mp sorted
  have nonzero : query.pageSize ≠ 0 := Nat.ne_of_gt positive
  rw [build, if_neg nonzero, active, checkSort]
  cases checkSortField fields field with
  | ok _ => rfl
  | error _ => rfl

end AggregationRequest

/-- What a stage is reported for where a request would be refused. -/
def StageIssue.ofSortError : ValidationError → StageIssue
  | .sortFieldMissing name => .schema (.unknownField name)
  | error => .validation error

theorem Propagation.issues_sort {p : Propagation} {name : String} (order : SortOrder)
    (checked : p.unchecked = false) (named : name ≠ "") :
    p.issues (.sort name order) =
      match AggregationRequest.checkSortField p.fields name with
      | .ok () => []
      | .error error => [.ofSortError error] := by
  have nonempty : name.isEmpty = false := by simpa using named
  cases found : Field.find? p.fields name with
  | none =>
      rw [AggregationRequest.checkSortField_of_find?_none found]
      simp [issues, checked, Stage.unresolved, Stage.pathReferences, Stage.nameReferences,
        Stage.isDanglingName, nonempty, found, Stage.notes, Stage.sortNotes,
        StageIssue.ofSortError]
  | some field =>
      rw [AggregationRequest.checkSortField_of_find?_some found]
      cases scalar : field.isScalar <;>
        simp [issues, checked, Stage.unresolved, Stage.pathReferences, Stage.nameReferences,
          Stage.isDanglingName, found, Stage.notes, nonempty, Stage.sortNotes, scalar,
          StageIssue.ofSortError]

/-- A sort at the end of a pipeline is reported for nothing just if its form offers the
field, and just if a request may sort by it what comes before.  Else the stage does not know
the field where the request misses it, and both or neither find that it is no scalar. -/
theorem sort_checks_agree (fields : List Field) (pipeline : List Stage) (name : String)
    (order : SortOrder) (spec : AggregationSpec) (dashboard : Json) (query : GridQuery)
    (checked : ∀ stage ∈ pipeline, stage.isCustom = false) (named : name ≠ "")
    (positive : 0 < query.pageSize) (sorted : query.activeSort?.map (·.1) = some name) :
    let whole := pipeline ++ [.sort name order]
    let reported (issue : StageIssue) : Prop :=
      ⟨pipeline.length, issue⟩ ∈ (propagate fields whole).diagnostics
    let built := AggregationRequest.build spec (fieldsAfter fields pipeline) dashboard query
    ∃ offered, (fieldsPerStage fields [] whole).perStage[pipeline.length]? = some offered ∧
      ((∀ issue, ¬ reported issue) ↔ ∃ field ∈ offered, field.name = name) ∧
      ((∃ field ∈ offered, field.name = name) ↔ ∃ request, built = .ok request) ∧
      (reported (.schema (.unknownField name)) ↔ built = .error (.sortFieldMissing name)) ∧
      (reported (.validation (.sortFieldNotScalar name)) ↔
        built = .error (.sortFieldNotScalar name)) ∧
      ∀ issue, reported issue → issue = .schema (.unknownField name) ∨
        issue = .validation (.sortFieldNotScalar name) := by
  intro whole reported built
  have last : whole[pipeline.length]? = some (.sort name order) := List.getElem?_concat_length
  have before : whole.take pipeline.length = pipeline := List.take_left
  have unmarked : (propagate fields pipeline).unchecked = false :=
    unchecked_propagate_eq_false checked
  have reported_iff (issue : StageIssue) :
      reported issue ↔ issue ∈ (propagate fields pipeline).issues (.sort name order) := by
    refine mem_diagnostics_iff.trans ?_
    rw [last, before]
    simp
  have listed : AggregationRequest.checkSortField (fieldsAfter fields pipeline) name = .ok () ↔
      ∃ field ∈ (fieldsAfter fields pipeline).filter (·.isScalar), field.name = name :=
    AggregationRequest.checkSortField_eq_ok_iff (nodup_names_fieldsAfter fields pipeline)
  refine ⟨(fieldsAfter fields pipeline).filter (·.isScalar), ?_, ?_⟩
  · rw [perStage_fieldsPerStage, List.getElem?_mapIdx, last, Option.map_some, before]
    rfl
  · -- All three are now said of the one check.
    have issues : (propagate fields pipeline).issues (.sort name order) =
        match AggregationRequest.checkSortField (fieldsAfter fields pipeline) name with
        | .ok () => []
        | .error error => [.ofSortError error] := Propagation.issues_sort order unmarked named
    rw [← listed]
    simp only [reported_iff, issues, built, AggregationRequest.build_of_sorted positive sorted]
    rcases AggregationRequest.checkSortField_cases (fieldsAfter fields pipeline) name with
      passed | missing | composite
    · simp [passed, Except.map]
    · simp [missing, Except.map, StageIssue.ofSortError]
    · simp [composite, Except.map, StageIssue.ofSortError]

/-- After grouping by the name of the owner, a path that is now a name of its own, records
can be sorted by it and no longer by region. -/
theorem groupByOwner_sorts :
    let pipeline : List Stage := [.group { groupBy := [{ field := "owner.name" }] }]
    let sortedBy (name : String) : GridQuery :=
      { pageSize := 10, sort := [⟨"region", none⟩, ⟨name, some .desc⟩] }
    let build := AggregationRequest.build {} (fieldsAfter ownedFields pipeline) .null
    (∀ stage ∈ pipeline, stage.isCustom = false) ∧
      (0 < (sortedBy "region").pageSize ∧
        (sortedBy "region").activeSort?.map (·.1) = some "region" ∧
        build (sortedBy "region") = .error (.sortFieldMissing "region")) ∧
      (sortedBy "owner.name").activeSort?.map (·.1) = some "owner.name" ∧
        ∃ request, build (sortedBy "owner.name") = .ok request := by
  intro pipeline sortedBy build
  have checked : ∀ stage ∈ pipeline, stage.isCustom = false := by decide
  obtain ⟨-, -, -, -, missing, -⟩ := sort_checks_agree ownedFields pipeline "region" .asc {} .null
    (sortedBy "region") checked (by decide) (by decide) (by decide)
  obtain ⟨_, -, silent, accepted, -⟩ := sort_checks_agree ownedFields pipeline "owner.name" .desc
    {} .null (sortedBy "owner.name") checked (by decide) (by decide) (by decide)
  have unreported : (propagate ownedFields (pipeline ++ [.sort "owner.name" .desc])).diagnostics =
      [] := by decide
  refine ⟨checked, ⟨by decide, by decide, missing.mp (by decide)⟩, by decide, ?_⟩
  refine accepted.mp (silent.mp fun issue reported => ?_)
  rw [unreported] at reported
  contradiction

end Aggregation
