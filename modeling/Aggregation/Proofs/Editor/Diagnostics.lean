import Mathlib.Data.List.Induction
import Aggregation.Proofs.Editor.Validity

namespace Aggregation

/-! The diagnostics of an editor, stage by stage.

What the forms lack is listed in the order of stages, and so is what propagation
notices.  An editor sorts the two lists into one.  The sort is stable, so that every
stage has what its form lacks first and what propagation noticed after it, each in the
order in which it was listed.
-/

namespace Diagnostic

/-- The issues of one stage, in the order in which they are listed. -/
def issuesAt (diagnostics : List Diagnostic) (index : Nat) : List StageIssue :=
  (diagnostics.filter (·.stage == index)).map (·.issue)

variable {diagnostics : List Diagnostic} {index : Nat} {issue : StageIssue}

theorem mem_issuesAt : issue ∈ issuesAt diagnostics index ↔ ⟨index, issue⟩ ∈ diagnostics := by
  constructor
  · intro member
    obtain ⟨diagnostic, listed, rfl⟩ := List.mem_map.mp member
    obtain ⟨recorded, here⟩ := List.mem_filter.mp listed
    rwa [← eq_of_beq here]
  · intro recorded
    exact List.mem_map.mpr ⟨_, List.mem_filter.mpr ⟨recorded, beq_self_eq_true index⟩, rfl⟩

theorem issuesAt_append (first second : List Diagnostic) (index : Nat) :
    issuesAt (first ++ second) index = issuesAt first index ++ issuesAt second index := by
  rw [issuesAt, List.filter_append, List.map_append]
  rfl

theorem issuesAt_of_stage (issues : List StageIssue) (index : Nat) :
    issuesAt (issues.map (⟨index, ·⟩)) index = issues := by
  have all : ∀ d ∈ issues.map (Diagnostic.mk index), (d.stage == index) = true := by simp
  rw [issuesAt, List.filter_eq_self.mpr all, List.map_map]
  exact List.map_id issues

theorem issuesAt_of_other {stage : Nat} (other : stage ≠ index) (issues : List StageIssue) :
    issuesAt (issues.map (⟨stage, ·⟩)) index = [] := by
  have none : ∀ d ∈ issues.map (Diagnostic.mk stage), ¬ (d.stage == index) = true := by
    simpa using fun _ _ => other
  rw [issuesAt, List.filter_eq_nil_iff.mpr none, List.map_nil]

/-- Where each stage's issues are listed in turn, those of one stage are its own. -/
theorem issuesAt_flatten_mapIdx (issuesOf : Nat → Stage → List StageIssue) (stages : List Stage)
    (index : Nat) :
    issuesAt (stages.mapIdx fun i stage => (issuesOf i stage).map (⟨i, ·⟩)).flatten index =
      (stages[index]?.map (issuesOf index)).getD [] := by
  induction stages using List.reverseRecOn with
  | nil => rfl
  | append_singleton earlier last ih =>
      rw [List.mapIdx_concat, List.flatten_append, List.flatten_singleton, issuesAt_append, ih]
      rcases Nat.lt_trichotomy index earlier.length with before | rfl | beyond
      · rw [issuesAt_of_other (Nat.ne_of_gt before), List.append_nil,
          List.getElem?_append_left before]
      · rw [issuesAt_of_stage, List.getElem?_eq_none (Nat.le_refl _), List.getElem?_concat_length]
        rfl
      · rw [issuesAt_of_other (Nat.ne_of_lt beyond), List.append_nil,
          List.getElem?_eq_none (by omega), List.getElem?_eq_none (by simp; omega)]

end Diagnostic

open Diagnostic

theorem StageIssue.isBlocking_eq_false_iff {issue : StageIssue} :
    issue.isBlocking = false ↔ ∃ warning, issue = .warning warning := by
  cases issue <;> simp [isBlocking]

theorem AggregationSpec.issuesAt_formDiagnostics (pipeline : List Stage) (index : Nat) :
    issuesAt (formDiagnostics pipeline) index =
      (pipeline[index]?.map fun stage => stage.validate.map .validation).getD [] := by
  have listed : formDiagnostics pipeline = (pipeline.mapIdx fun i stage =>
      (stage.validate.map StageIssue.validation).map (⟨i, ·⟩)).flatten := by
    simp only [formDiagnostics, List.flatMap_def, List.mapIdx_eq_zipIdx_map, List.map_map,
      Function.comp_def]
  rw [listed, issuesAt_flatten_mapIdx]

theorem AggregationSpec.formDiagnostics_of_complete {pipeline : List Stage}
    (complete : ∀ stage ∈ pipeline, stage.validate = []) : formDiagnostics pipeline = [] := by
  refine List.flatMap_eq_nil_iff.mpr fun (stage, index) member => ?_
  exact List.map_eq_nil_iff.mpr (complete stage (List.fst_mem_of_mem_zipIdx member))

/-- What is recorded for a stage, in this order, are its issues after the stages before it. -/
theorem issuesAt_propagate (fields : List Field) (stages : List Stage) (index : Nat) :
    issuesAt (propagate fields stages).diagnostics index =
      (stages[index]?.map (propagate fields (stages.take index)).issues).getD [] := by
  have recorded := Propagation.diagnostics_applyAll (.start fields) 0 stages
  simp only [Nat.zero_add] at recorded
  rw [propagate, recorded]
  exact issuesAt_flatten_mapIdx (fun i => (propagate fields (stages.take i)).issues) stages index

namespace Editor

variable {editor : Editor} {initial filterFields : List Field} {pipeline : List Stage}

theorem stage_le_trans (a b c : Diagnostic) (first : decide (a.stage ≤ b.stage) = true)
    (second : decide (b.stage ≤ c.stage) = true) : decide (a.stage ≤ c.stage) = true :=
  decide_eq_true (Nat.le_trans (of_decide_eq_true first) (of_decide_eq_true second))

theorem stage_le_total (a b : Diagnostic) :
    (decide (a.stage ≤ b.stage) || decide (b.stage ≤ a.stage)) = true := by
  simpa using Nat.le_total a.stage b.stage

theorem pairwise_inStageOrder (diagnostics : List Diagnostic) :
    (inStageOrder diagnostics).Pairwise fun a b => a.stage ≤ b.stage :=
  (List.pairwise_mergeSort stage_le_trans stage_le_total diagnostics).imp of_decide_eq_true

/-- Sorting moves no issue of a stage past another one of the same stage. -/
theorem issuesAt_inStageOrder (diagnostics : List Diagnostic) (index : Nat) :
    issuesAt (inStageOrder diagnostics) index = issuesAt diagnostics index := by
  let ofStage := diagnostics.filter (·.stage == index)
  have level : ofStage.Pairwise fun a b => decide (a.stage ≤ b.stage) = true := by
    refine List.pairwise_of_forall_mem_list fun a first b second => decide_eq_true ?_
    have left : a.stage = index := eq_of_beq (List.mem_filter.mp first).2
    have right : b.stage = index := eq_of_beq (List.mem_filter.mp second).2
    exact Nat.le_of_eq (left.trans right.symm)
  have kept : ofStage.Sublist (inStageOrder diagnostics) :=
    List.sublist_mergeSort stage_le_trans stage_le_total level List.filter_sublist
  -- They are in the sorted list in their order, and it has no others of their stage.
  have same : ofStage = (inStageOrder diagnostics).filter (·.stage == index) := by
    have among := kept.filter (·.stage == index)
    rw [List.filter_filter] at among
    simp only [Bool.and_self] at among
    exact among.eq_of_length ((List.mergeSort_perm _ _).filter _).length_eq.symm
  rw [issuesAt, ← same]
  rfl

theorem diagnosticsFor_eq (editor : Editor) (index : Nat) :
    editor.diagnosticsFor index = issuesAt editor.diagnostics index := rfl

/-- A stage is shown what its form lacks, and then what propagation noticed at it. -/
theorem diagnosticsFor_rebuild (initial filterFields : List Field) (pipeline : List Stage)
    (index : Nat) :
    (rebuild initial filterFields pipeline).diagnosticsFor index =
      (pipeline[index]?.map fun stage => stage.validate.map .validation).getD [] ++
        issuesAt (propagate initial pipeline).diagnostics index := by
  rw [diagnosticsFor_eq, rebuild, issuesAt_inStageOrder, issuesAt_append,
    AggregationSpec.issuesAt_formDiagnostics, output_fieldsPerStage]

theorem stage_lt_of_mem_rebuild {diagnostic : Diagnostic}
    (member : diagnostic ∈ (rebuild initial filterFields pipeline).diagnostics) :
    diagnostic.stage < pipeline.length := by
  refine Nat.lt_of_not_le fun beyond => ?_
  have absent : pipeline[diagnostic.stage]? = none := List.getElem?_eq_none beyond
  have shown := mem_issuesAt.mpr member
  rw [← diagnosticsFor_eq, diagnosticsFor_rebuild, issuesAt_propagate, absent] at shown
  exact List.not_mem_nil shown

theorem isValid_iff (editor : Editor) :
    editor.isValid = true ↔ editor.fieldIssues = [] ∧
      ∀ index, ∀ issue ∈ editor.diagnosticsFor index, ∃ warning, issue = .warning warning := by
  simp only [isValid, Bool.and_eq_true, List.isEmpty_iff, Bool.not_eq_true', List.any_eq_false,
    Bool.not_eq_true, StageIssue.isBlocking_eq_false_iff, diagnosticsFor_eq, mem_issuesAt]
  exact and_congr_right fun _ => ⟨fun warnings index issue => warnings ⟨index, issue⟩,
    fun warnings diagnostic => warnings diagnostic.stage diagnostic.issue⟩

/-- Whatever was done to an editor, its diagnostics are in the order of its stages, and
each stage has what its form lacks and then what propagation noticed at it, nothing less
or more.  The editor is valid just if its fields are well formed and all that its stages
have are warnings; a spec with its pipeline then has no fault in any stage, whatever the
widget. -/
theorem diagnostics_complete (initialFields filterFields : List Field) (pipeline : List Stage)
    (operations : List Operation) :
    let editor := Run.play after ((new initialFields pipeline).withFilterFields filterFields)
      operations
    editor.diagnostics.Pairwise (fun a b => a.stage ≤ b.stage) ∧
    (∀ diagnostic ∈ editor.diagnostics, diagnostic.stage < editor.pipeline.length) ∧
    (∀ index stage, editor.pipeline[index]? = some stage →
      editor.diagnosticsFor index = stage.validate.map .validation ++
        issuesAt (propagate editor.initialFields editor.pipeline).diagnostics index) ∧
    (editor.isValid = true ↔ editor.fieldIssues = [] ∧
      ∀ index, ∀ issue ∈ editor.diagnosticsFor index, ∃ warning, issue = .warning warning) ∧
    (editor.isValid = true → ∀ (spec : AggregationSpec) widget issues,
      spec.pipeline = editor.pipeline → spec.validate widget = .error issues → issues.stages = []) := by
  intro editor
  have derived : Derived editor := derived_play initialFields filterFields pipeline operations
  refine ⟨?_, ?_, ?_, isValid_iff editor, ?_⟩
  · rw [derived]
    exact pairwise_inStageOrder _
  · intro diagnostic member
    rw [derived] at member
    exact stage_lt_of_mem_rebuild member
  · intro index stage there
    have shown := diagnosticsFor_rebuild editor.initialFields editor.filterFields editor.pipeline
      index
    rwa [← derived, there, Option.map_some, Option.getD_some] at shown
  · intro valid spec widget issues carried refused
    rw [derived] at valid
    obtain ⟨-, complete⟩ := isValid_rebuild valid
    have faultless : (spec.issues widget).stages = [] := by
      rw [AggregationSpec.issues, carried]
      exact AggregationSpec.formDiagnostics_of_complete complete
    rw [AggregationSpec.validate] at refused
    split at refused
    · contradiction
    · cases refused
      exact faultless

/-- A stage without a name or an operator to compute, and a sort by a field that is not there. -/
def unfinishedStages : List Stage := [.addFields [{}], .sort "ghost" .asc]

/-- Unwinds a scalar, and goes on with a stage about which nothing is known. -/
def doubtfulStages : List Stage := [.unwind "region", .custom "[]"]

theorem doubtfulStages_diagnosed :
    let region := Field.makeScalar "region" "String"
    let unfinished := Run.play after ((new [region] unfinishedStages).withFilterFields [])
      [.addStage .custom]
    let doubtful := (new [region] doubtfulStages).withFilterFields []
    unfinished.diagnosticsFor 0 =
        [.validation (.missingValue "[0].name"),
          .validation (.missingValue "[0].expression.operator")] ∧
      unfinished.diagnosticsFor 1 = [.schema (.unknownField "ghost")] ∧
      unfinished.diagnosticsFor 2 =
        [.validation (.missingValue "raw"), .warning .uncheckedCustomStage] ∧
      doubtful.diagnosticsFor 0 = [.warning (.unwindNotList "region" "SCALAR")] ∧
      doubtful.isValid = true ∧
      (∃ issues, ({ pipeline := doubtfulStages } : AggregationSpec).validate "bar" =
        .error issues ∧ issues.spec ≠ [] ∧ issues.stages = []) := by
  intro region unfinished doubtful
  obtain ⟨-, -, shown, -, -⟩ :=
    diagnostics_complete [region] [] unfinishedStages [.addStage .custom]
  obtain ⟨-, -, warned, valid, saved⟩ := diagnostics_complete [region] [] doubtfulStages []
  have passes : doubtful.isValid = true := by
    refine valid.mpr ⟨by decide, fun index issue member => ?_⟩
    have filled : AggregationSpec.formDiagnostics doubtfulStages = [] := by decide +kernel
    have noticed : (propagate [region] doubtfulStages).diagnostics =
        [⟨0, .warning (.unwindNotList "region" "SCALAR")⟩,
          ⟨1, .warning .uncheckedCustomStage⟩] := by decide
    have listed := mem_diagnostics_rebuild.mp (mem_issuesAt.mp member)
    rw [filled, noticed] at listed
    simp only [List.not_mem_nil, false_or, List.mem_cons, Diagnostic.mk.injEq, or_false] at listed
    rcases listed with ⟨-, rfl⟩ | ⟨-, rfl⟩
    · exact ⟨_, rfl⟩
    · exact ⟨_, rfl⟩
  refine ⟨?_, ?_, ?_, ?_, passes, _, rfl, by decide, ?_⟩
  · exact (shown 0 _ rfl).trans (by decide +kernel)
  · exact (shown 1 _ rfl).trans (by decide +kernel)
  · exact (shown 2 _ rfl).trans (by decide +kernel)
  · exact (warned 0 _ rfl).trans (by decide +kernel)
  · exact saved passes { pipeline := doubtfulStages } "bar" _ rfl rfl

end Editor

end Aggregation
