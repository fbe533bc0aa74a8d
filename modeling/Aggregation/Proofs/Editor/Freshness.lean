import Aggregation.Editor
import Aggregation.Proofs.Propagation.Prefix
import Aggregation.Proofs.Run

namespace Aggregation

/-! An editor is always as if it had just been opened.

Some operations leave the editor alone because they would change nothing.  That is
right only while everything in it follows from its fields and its pipeline, which
is what `Editor.Derived` says and what every operation keeps.
-/

namespace Editor

/-- What a user can do to an editor. -/
inductive Operation where
  | setInitialFields (fields : List Field)
  | setFilterFields (fields : List Field)
  | setPipeline (pipeline : List Stage)
  | addStage (kind : Stage.Kind)
  | deleteStage (index : Nat)
  | moveStage (source target : Nat)
  | updateStage (index : Nat) (stage : Stage)

inductive Answer where
  | changed (flag : Bool)
  | added (index : Nat)
  | removed (stage : Stage)
  | moved
  | refused (error : ValidationError)

/-- Whether an answer says that nothing was done. -/
def Answer.isRefusal : Answer → Bool
  | .changed flag => !flag
  | .refused _ => true
  | _ => false

def Answer.ofExcept {α : Type} (done : α → Answer) : Except ValidationError α → Answer
  | .ok value => done value
  | .error error => .refused error

def perform (editor : Editor) : Operation → Answer × Editor
  | .setInitialFields fields => (editor.setInitialFields fields).map .changed id
  | .setFilterFields fields => (editor.setFilterFields fields).map .changed id
  | .setPipeline pipeline => (editor.setPipeline pipeline).map .changed id
  | .addStage kind => (editor.addStage kind).map .added id
  | .deleteStage index => (editor.deleteStage index).map (Answer.ofExcept .removed) id
  | .moveStage source target =>
    (editor.moveStage source target).map (Answer.ofExcept fun _ => .moved) id
  | .updateStage index stage =>
    (editor.updateStage index stage).map (Answer.ofExcept .changed) id

def after (editor : Editor) (operation : Operation) : Editor := (editor.perform operation).2

/-- Whether everything in an editor follows from its fields and its pipeline. -/
def Derived (editor : Editor) : Prop :=
  editor = rebuild editor.initialFields editor.filterFields editor.pipeline

variable {editor : Editor}

theorem derived_rebuild (initialFields filterFields : List Field) (pipeline : List Stage) :
    Derived (rebuild initialFields filterFields pipeline) := rfl

theorem withFilterFields_new (initialFields filterFields : List Field) (pipeline : List Stage) :
    (new initialFields pipeline).withFilterFields filterFields =
      rebuild initialFields filterFields pipeline := by
  by_cases none : ([] : List Field) = filterFields
  · subst none
    rfl
  · simp [withFilterFields, setFilterFields, new, rebuild, none]

theorem perStage_length_rebuild (initialFields filterFields : List Field)
    (pipeline : List Stage) :
    (rebuild initialFields filterFields pipeline).stageFields.perStage.length =
      pipeline.length := by
  rw [rebuild, perStage_fieldsPerStage, List.length_mapIdx]

theorem mem_diagnostics_rebuild {initialFields filterFields : List Field}
    {pipeline : List Stage} {diagnostic : Diagnostic} :
    diagnostic ∈ (rebuild initialFields filterFields pipeline).diagnostics ↔
      diagnostic ∈ AggregationSpec.formDiagnostics pipeline ∨
        diagnostic ∈ (propagate initialFields pipeline).diagnostics := by
  rw [rebuild, inStageOrder, List.mem_mergeSort, List.mem_append, output_fieldsPerStage]

/-- An operation that says that nothing was done has done nothing, and every other
one has computed the whole editor anew. -/
theorem perform_cases (editor : Editor) (operation : Operation) :
    (editor.perform operation).2 = editor ∨
      (editor.perform operation).1.isRefusal = false ∧
        ∃ initialFields filterFields pipeline,
          (editor.perform operation).2 = rebuild initialFields filterFields pipeline := by
  cases operation with
  | setInitialFields fields =>
      by_cases same : editor.initialFields = fields
      · exact .inl (by simp [perform, setInitialFields, same])
      · refine .inr ⟨?_, fields, editor.filterFields, editor.pipeline, ?_⟩ <;>
          simp [perform, setInitialFields, same, Answer.isRefusal]
  | setFilterFields fields =>
      by_cases same : editor.filterFields = fields
      · exact .inl (by simp [perform, setFilterFields, same])
      · refine .inr ⟨?_, editor.initialFields, fields, editor.pipeline, ?_⟩ <;>
          simp [perform, setFilterFields, same, Answer.isRefusal]
  | setPipeline pipeline =>
      cases same : editor.pipeline == pipeline with
      | true => exact .inl (by simp [perform, setPipeline, same])
      | false =>
          refine .inr ⟨?_, editor.initialFields, editor.filterFields, pipeline, ?_⟩ <;>
            simp [perform, setPipeline, withPipeline, same, Answer.isRefusal]
  | addStage kind => exact .inr ⟨rfl, _, _, _, rfl⟩
  | deleteStage index =>
      cases found : editor.pipeline[index]? with
      | none => exact .inl (by simp [perform, deleteStage, found])
      | some stage =>
          refine .inr ⟨?_, editor.initialFields, editor.filterFields,
            editor.pipeline.eraseIdx index, ?_⟩ <;>
            simp [perform, deleteStage, withPipeline, found, Answer.ofExcept, Answer.isRefusal]
  | moveStage source target =>
      cases found : editor.pipeline[source]? with
      | none => exact .inl (by simp [perform, moveStage, found])
      | some stage =>
          by_cases outside : editor.pipeline.length ≤ target
          · exact .inl (by simp [perform, moveStage, found, outside])
          · by_cases still : source = target
            · subst still
              exact .inl (by simp [perform, moveStage, found, outside])
            · refine .inr ⟨?_, editor.initialFields, editor.filterFields,
                (editor.pipeline.eraseIdx source).insertIdx target stage, ?_⟩ <;>
                simp [perform, moveStage, withPipeline, found, outside, still, Answer.ofExcept,
                  Answer.isRefusal]
  | updateStage index stage =>
      cases found : editor.pipeline[index]? with
      | none => exact .inl (by simp [perform, updateStage, found])
      | some current =>
          cases same : current == stage with
          | true => exact .inl (by simp [perform, updateStage, found, same])
          | false =>
              refine .inr ⟨?_, editor.initialFields, editor.filterFields,
                editor.pipeline.set index stage, ?_⟩ <;>
                simp [perform, updateStage, withPipeline, found, same, Answer.ofExcept,
                  Answer.isRefusal]

theorem Derived.after (derived : Derived editor) (operation : Operation) :
    Derived (editor.after operation) := by
  rw [Editor.after]
  rcases perform_cases editor operation with same | ⟨-, initial, filter, pipeline, computed⟩
  · rw [same]
    exact derived
  · rw [computed]
    exact derived_rebuild initial filter pipeline

theorem perform_of_isRefusal {operation : Operation}
    (refusal : (editor.perform operation).1.isRefusal = true) :
    (editor.perform operation).2 = editor := by
  rcases perform_cases editor operation with same | ⟨done, -⟩
  · exact same
  · rw [refusal] at done
    contradiction

theorem derived_play (initialFields filterFields : List Field) (pipeline : List Stage)
    (operations : List Operation) :
    Derived (Run.play after ((new initialFields pipeline).withFilterFields filterFields)
      operations) := by
  refine Run.play_keeps Derived (fun _ operation derived _ => derived.after operation) ?_
    Run.obeys_unruled
  rw [withFilterFields_new]
  exact derived_rebuild _ _ _

/-- Whatever was done to an editor, it equals one newly opened on its fields and its
pipeline.  It offers fields to just as many stages as there are, and an operation
that was refused, or found nothing to change, leaves all of it as it was. -/
theorem editor_fresh (initialFields filterFields : List Field) (pipeline : List Stage)
    (operations : List Operation) :
    let editor := Run.play after ((new initialFields pipeline).withFilterFields filterFields)
      operations
    editor = (new editor.initialFields editor.pipeline).withFilterFields editor.filterFields ∧
      editor.stageFields.perStage.length = editor.pipeline.length ∧
      ∀ operation, (editor.perform operation).1.isRefusal = true →
        (editor.perform operation).2 = editor := by
  intro editor
  have derived : Derived editor := derived_play initialFields filterFields pipeline operations
  refine ⟨?_, ?_, fun operation refusal => perform_of_isRefusal refusal⟩
  · rw [withFilterFields_new]
    exact derived
  · rw [derived]
    exact perStage_length_rebuild _ _ _

end Editor

end Aggregation
