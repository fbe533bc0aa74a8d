import Mathlib.Data.List.InsertIdx
import Mathlib.Data.List.Perm.Basic
import Aggregation.Proofs.Editor.Freshness
import Aggregation.Proofs.Propagation.References

namespace Aggregation.Editor

/-! Moving a stage and moving it back.

A move takes a stage out and puts it in again at another place, so that it is undone by the move
from there to where it was.  Everything else in an editor follows from its fields and its
pipeline, and comes back with the pipeline.
-/

variable {editor : Editor} {stage : Stage} {source target : Nat}

theorem Derived.withPipeline_self (derived : Derived editor) :
    editor.withPipeline editor.pipeline = editor := derived.symm

theorem withPipeline_withPipeline (editor : Editor) (first second : List Stage) :
    (editor.withPipeline first).withPipeline second = editor.withPipeline second := rfl

/-- The stages after one of them was moved. -/
def movedStages (stages : List Stage) (source target : Nat) (stage : Stage) : List Stage :=
  (stages.eraseIdx source).insertIdx target stage

section Stages

variable {stages : List Stage}

theorem movedStages_self (there : stages[source]? = some stage) :
    movedStages stages source source stage = stages := by
  obtain ⟨inside, rfl⟩ := List.getElem?_eq_some_iff.mp there
  exact List.insertIdx_eraseIdx_getElem inside

theorem eraseIdx_movedStages (stages : List Stage) (source target : Nat) (stage : Stage) :
    (movedStages stages source target stage).eraseIdx target = stages.eraseIdx source :=
  List.eraseIdx_insertIdx_self stage

theorem movedStages_back (there : stages[source]? = some stage) :
    movedStages (movedStages stages source target stage) target source stage = stages := by
  rw [movedStages, eraseIdx_movedStages]
  exact movedStages_self there

theorem getElem?_movedStages (there : stages[source]? = some stage)
    (inside : target < stages.length) :
    (movedStages stages source target stage)[target]? = some stage := by
  obtain ⟨sourceInside, -⟩ := List.getElem?_eq_some_iff.mp there
  have shorter := List.length_eraseIdx_of_lt sourceInside
  rw [movedStages, List.getElem?_insertIdx_self, if_pos (by omega)]

theorem movedStages_perm (there : stages[source]? = some stage)
    (inside : target < stages.length) :
    (movedStages stages source target stage).Perm stages := by
  obtain ⟨sourceInside, rfl⟩ := List.getElem?_eq_some_iff.mp there
  have shorter := List.length_eraseIdx_of_lt sourceInside
  exact (List.perm_insertIdx _ _ (by omega)).trans (List.getElem_cons_eraseIdx_perm sourceInside)

end Stages

/-- A move that leaves a stage where it is changes nothing, as putting it back there would. -/
theorem Derived.moveStage_eq (derived : Derived editor)
    (there : editor.pipeline[source]? = some stage) (inside : target < editor.pipeline.length) :
    editor.moveStage source target =
      (.ok (), editor.withPipeline (movedStages editor.pipeline source target stage)) := by
  have within : ¬ editor.pipeline.length ≤ target := Nat.not_le.mpr inside
  by_cases still : source = target
  · subst still
    rw [movedStages_self there, derived.withPipeline_self]
    simp [moveStage, there, within]
  · simp [moveStage, there, within, still, movedStages]

theorem Derived.moveStage_back (derived : Derived editor)
    (there : editor.pipeline[source]? = some stage) (inside : target < editor.pipeline.length) :
    (editor.withPipeline (movedStages editor.pipeline source target stage)).moveStage target source
      = (.ok (), editor) := by
  let moved := editor.withPipeline (movedStages editor.pipeline source target stage)
  have movedDerived : Derived moved := derived_rebuild _ _ _
  have arrived : moved.pipeline[target]? = some stage := getElem?_movedStages there inside
  have within : source < moved.pipeline.length := by
    obtain ⟨sourceInside, -⟩ := List.getElem?_eq_some_iff.mp there
    exact (movedStages_perm there inside).length_eq ▸ sourceInside
  rw [movedDerived.moveStage_eq arrived within, withPipeline_withPipeline]
  exact congrArg (Prod.mk _) ((movedStages_back there).symm ▸ derived.withPipeline_self)

/-- Whatever was done to an editor, a stage moves between any two places that there are: it
arrives, all others keep their order, and moving it back restores the editor as it was.  An
index past the end is refused, the first one that is so, and nothing is changed. -/
theorem moves_invertible (initialFields filterFields : List Field) (pipeline : List Stage)
    (operations : List Operation) (source target : Nat) :
    let editor := Run.play after ((new initialFields pipeline).withFilterFields filterFields)
      operations
    let count := editor.pipeline.length
    (source < count → target < count → ∃ moved, editor.moveStage source target = (.ok (), moved) ∧
      moved.pipeline.Perm editor.pipeline ∧
      moved.pipeline[target]? = editor.pipeline[source]? ∧
      moved.pipeline.eraseIdx target = editor.pipeline.eraseIdx source ∧
      moved.moveStage target source = (.ok (), editor)) ∧
    (count ≤ source → editor.moveStage source target =
      (.error (.stageOutOfBounds source count), editor)) ∧
    (source < count → count ≤ target → editor.moveStage source target =
      (.error (.stageOutOfBounds target count), editor)) ∧
    ∀ index, count ≤ index →
      editor.deleteStage index = (.error (.stageOutOfBounds index count), editor) ∧
      ∀ stage, editor.updateStage index stage =
        (.error (.stageOutOfBounds index count), editor) := by
  intro editor count
  have derived : Derived editor := derived_play initialFields filterFields pipeline operations
  have absent {index : Nat} (outside : count ≤ index) : editor.pipeline[index]? = none :=
    List.getElem?_eq_none outside
  refine ⟨fun within inside => ?_, fun outside => ?_, fun within outside => ?_,
    fun index outside => ⟨?_, fun stage => ?_⟩⟩
  · have there : editor.pipeline[source]? = some editor.pipeline[source] :=
      List.getElem?_eq_getElem within
    refine ⟨_, derived.moveStage_eq there inside, movedStages_perm there inside, ?_,
      eraseIdx_movedStages _ _ _ _, derived.moveStage_back there inside⟩
    rw [there]
    exact getElem?_movedStages there inside
  · simp [moveStage, absent outside, outOfBounds, count]
  · have there : editor.pipeline[source]? = some editor.pipeline[source] :=
      List.getElem?_eq_getElem within
    simp [moveStage, there, outside, outOfBounds, count]
  · simp [deleteStage, absent outside, outOfBounds, count]
  · simp [updateStage, absent outside, outOfBounds, count]

/-- The tags are unwound after the sorts by what is in them, and then before them again. -/
theorem unwindLast_moved_back :
    let editor := Run.play after ((new taggedFields
      [.unwind "tags", .sort "label" .asc, .sort "weight" .desc]).withFilterFields [])
        [.addStage .custom]
    editor.pipeline.length = 4 ∧
      (∃ moved, editor.moveStage 0 2 = (.ok (), moved) ∧
        moved.pipeline[2]? = some (.unwind "tags") ∧
        moved.moveStage 2 0 = (.ok (), editor)) ∧
      editor.moveStage 0 4 = (.error (.stageOutOfBounds 4 4), editor) ∧
      editor.moveStage 5 4 = (.error (.stageOutOfBounds 5 4), editor) ∧
      editor.deleteStage 4 = (.error (.stageOutOfBounds 4 4), editor) := by
  intro editor
  let pipeline : List Stage := [.unwind "tags", .sort "label" .asc, .sort "weight" .desc]
  have known := moves_invertible taggedFields [] pipeline [.addStage .custom]
  obtain ⟨moved, moves, -, arrived, -, back⟩ := (known 0 2).1 (by decide) (by decide)
  refine ⟨rfl, ⟨moved, moves, arrived, back⟩, ?_, ?_, ?_⟩
  · exact (known 0 4).2.2.1 (by decide) (by decide)
  · exact (known 5 4).2.1 (by decide)
  · exact ((known 0 0).2.2.2 4 (by decide)).1

end Aggregation.Editor
