import Mathlib.Data.List.TakeDrop
import Aggregation.Proofs.Editor.Diagnostics
import Aggregation.Proofs.Editor.Moving

namespace Aggregation.Editor

/-! An edit leaves all that comes before it alone.

Everything is computed anew after an edit, from the first stage on.  What an editor says
of a position follows from the stages up to it, though, even among diagnostics that are
sorted over all stages; and an edit keeps the stages before the first one that it touches.
-/

/-- The first position that editing a pipeline of `length` stages may change. -/
def Operation.firstPlace? (length : Nat) : Operation → Option Nat
  | .addStage _ => some length
  | .deleteStage index => some index
  | .updateStage index _ => some index
  | .moveStage source target => some (min source target)
  | _ => none

/-- What two editors have in common if they differ from a stage on only. -/
structure SameBefore (place : Nat) (editor other : Editor) : Prop where
  fieldsFor : ∀ index < place, editor.fieldsFor? index = other.fieldsFor? index
  diagnosticsFor : ∀ index < place, editor.diagnosticsFor index = other.diagnosticsFor index
  /-- The fields that reach the stage, and those that reach it from the overlay. -/
  reaching : fieldsAfter editor.initialFields (editor.pipeline.take place) =
    fieldsAfter other.initialFields (other.pipeline.take place)
  overlaid :
    fieldsAfter (overlayFields editor.initialFields editor.filterFields)
        (editor.pipeline.take place) =
      fieldsAfter (overlayFields other.initialFields other.filterFields)
        (other.pipeline.take place)
  /-- So what its form is offered follows from these. -/
  offered : editor.fieldsFor? place = editor.pipeline[place]?.map
    (·.offeredAfter other.initialFields other.filterFields (other.pipeline.take place))

variable {editor : Editor} {first second : List Stage} {operation : Operation} {place index : Nat}

theorem getElem?_eq_of_take_eq (agree : first.take place = second.take place)
    (before : index < place) : first[index]? = second[index]? := by
  rw [← List.getElem?_take_of_lt before, agree, List.getElem?_take_of_lt before]

theorem take_eq_of_take_eq (agree : first.take place = second.take place)
    (before : index < place) : first.take index = second.take index := by
  have least : min index place = index := Nat.min_eq_left (Nat.le_of_lt before)
  rw [← least, ← List.take_take, agree, List.take_take]

/-- What is said of a position follows from the stages up to it. -/
theorem sameBefore_rebuild (initial filterFields : List Field)
    (agree : first.take place = second.take place) :
    SameBefore place (rebuild initial filterFields first) (rebuild initial filterFields second) where
  fieldsFor index before := by
    rw [fieldsFor?_rebuild, fieldsFor?_rebuild, getElem?_eq_of_take_eq agree before,
      take_eq_of_take_eq agree before]
  diagnosticsFor index before := by
    rw [diagnosticsFor_rebuild, diagnosticsFor_rebuild, issuesAt_propagate, issuesAt_propagate,
      getElem?_eq_of_take_eq agree before, take_eq_of_take_eq agree before]
  reaching := congrArg (fieldsAfter initial) agree
  overlaid := congrArg (fieldsAfter (overlayFields initial filterFields)) agree
  offered := by
    rw [fieldsFor?_rebuild]
    exact congrArg (fun earlier => first[place]?.map (·.offeredAfter initial filterFields earlier))
      agree

theorem take_movedStages {source target : Nat} (stages : List Stage) (stage : Stage) :
    (movedStages stages source target stage).take (min source target) =
      stages.take (min source target) := by
  rw [movedStages, List.take_insertIdx_eq_take_of_le _ _ _ _ (Nat.min_le_right _ _),
    List.take_eraseIdx_eq_take_of_le _ _ _ (Nat.min_le_left _ _)]

/-- Editing gives an editor another pipeline with the same stages before the edit; a refused
edit, or one that finds nothing to change, gives it its own. -/
theorem Derived.exists_pipeline_after (derived : Derived editor)
    (edits : operation.firstPlace? editor.pipeline.length = some place) :
    ∃ pipeline, editor.after operation = editor.withPipeline pipeline ∧
      pipeline.take place = editor.pipeline.take place := by
  have unchanged (same : editor.after operation = editor) :
      ∃ pipeline, editor.after operation = editor.withPipeline pipeline ∧
        pipeline.take place = editor.pipeline.take place :=
    ⟨editor.pipeline, same.trans derived.withPipeline_self.symm, rfl⟩
  cases operation with
  | setInitialFields | setFilterFields | setPipeline => contradiction
  | addStage kind =>
      cases edits
      exact ⟨_, rfl, List.take_append_of_le_length (Nat.le_refl _)⟩
  | deleteStage index =>
      cases edits
      cases found : editor.pipeline[place]? with
      | none => exact unchanged (by simp [Editor.after, perform, deleteStage, found])
      | some stage =>
          exact ⟨editor.pipeline.eraseIdx place,
            by simp [Editor.after, perform, deleteStage, found],
            List.take_eraseIdx_eq_take_of_le _ _ _ (Nat.le_refl _)⟩
  | updateStage index stage =>
      cases edits
      cases found : editor.pipeline[place]? with
      | none => exact unchanged (by simp [Editor.after, perform, updateStage, found])
      | some current =>
          cases same : current == stage with
          | true => exact unchanged (by simp [Editor.after, perform, updateStage, found, same])
          | false =>
              exact ⟨editor.pipeline.set place stage,
                by simp [Editor.after, perform, updateStage, found, same],
                List.take_set_of_le (Nat.le_refl _)⟩
  | moveStage source target =>
      cases edits
      cases found : editor.pipeline[source]? with
      | none => exact unchanged (by simp [Editor.after, perform, moveStage, found])
      | some stage =>
          by_cases outside : editor.pipeline.length ≤ target
          · exact unchanged (by simp [Editor.after, perform, moveStage, found, outside])
          · refine ⟨_, ?_, take_movedStages editor.pipeline stage⟩
            have moves := derived.moveStage_eq found (Nat.lt_of_not_le outside)
            simp [Editor.after, perform, moves]

/-- Whatever was done to an editor, an edit changes nothing before the first stage that it
touches: neither the fields nor the diagnostics of an earlier position, nor the fields that
reach this one.  All of that follows from the earlier stages, and is the same in any two
editors over the same fields whose first stages agree. -/
theorem edits_local (initialFields filterFields : List Field) (pipeline : List Stage)
    (operations : List Operation) :
    let editor := Run.play after ((new initialFields pipeline).withFilterFields filterFields)
      operations
    (∀ operation place, operation.firstPlace? editor.pipeline.length = some place →
      SameBefore place (editor.after operation) editor) ∧
    ∀ first second place, first.take place = second.take place →
      SameBefore place ((new initialFields first).withFilterFields filterFields)
        ((new initialFields second).withFilterFields filterFields) := by
  intro editor
  have derived : Derived editor := derived_play initialFields filterFields pipeline operations
  constructor
  · intro operation place edits
    obtain ⟨edited, computed, agree⟩ := derived.exists_pipeline_after edits
    have same := sameBefore_rebuild editor.initialFields editor.filterFields agree
    rw [← derived] at same
    rw [computed]
    exact same
  · intro first second place agree
    rw [withFilterFields_new, withFilterFields_new]
    exact sameBefore_rebuild initialFields filterFields agree

/-- A sort by a field that is not there, and one by a field that is there once the tags are
unwound. -/
def unwindBetweenSorts : List Stage := [.sort "ghost" .asc, .unwind "tags", .sort "label" .asc]

/-- Without the tags unwound, the last sort has no field either; the first is as before. -/
theorem unwindBetweenSorts_deleted_local :
    let editor := Run.play after ((new taggedFields []).withFilterFields taggedFields)
      [.setPipeline unwindBetweenSorts]
    let edited := editor.after (.deleteStage 1)
    let first := (new taggedFields unwindBetweenSorts).withFilterFields taggedFields
    let second := (new taggedFields [.sort "ghost" .asc]).withFilterFields taggedFields
    (Operation.deleteStage 1).firstPlace? editor.pipeline.length = some 1 ∧
      edited.diagnosticsFor 0 = editor.diagnosticsFor 0 ∧
      edited.fieldsFor? 0 = editor.fieldsFor? 0 ∧
      edited.fieldsFor? 1 = some [.makeScalar "region" "String"] ∧
      unwindBetweenSorts.take 1 = [Stage.sort "ghost" .asc].take 1 ∧
      first.diagnosticsFor 0 = second.diagnosticsFor 0 := by
  intro editor edited first second
  obtain ⟨edits, agreeing⟩ :=
    edits_local taggedFields taggedFields [] [.setPipeline unwindBetweenSorts]
  have deleted := edits (.deleteStage 1) 1 rfl
  have agree := agreeing unwindBetweenSorts [.sort "ghost" .asc] 1 rfl
  refine ⟨rfl, deleted.diagnosticsFor 0 Nat.one_pos, deleted.fieldsFor 0 Nat.one_pos, ?_, rfl,
    agree.diagnosticsFor 0 Nat.one_pos⟩
  exact deleted.offered.trans (by decide +kernel)

end Aggregation.Editor
