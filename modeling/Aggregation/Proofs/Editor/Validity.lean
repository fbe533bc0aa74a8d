import Aggregation.Proofs.Editor.Freshness
import Aggregation.Proofs.Propagation.WellFormed

namespace Aggregation.Editor

/-! What the fields are like that a valid editor shows.

A valid editor has well-formed fields to start from and complete forms.  Complete forms
make up no blank names but in one place, the computed fields of groups; every such name
is shown right after its group.
-/

variable {initial filterFields : List Field} {pipeline : List Stage}

/-- All fields that an editor shows, to any stage's form or at the end, pass the check of
fields. -/
def ShowsValidFields (editor : Editor) : Prop :=
  (∀ index fields, editor.fieldsFor? index = some fields →
    ∀ field ∈ fields, field.validate = .ok ()) ∧
  ∀ field ∈ editor.outputFields, field.validate = .ok ()

theorem isValid_rebuild (valid : (rebuild initial filterFields pipeline).isValid = true) :
    (∀ field ∈ initial ++ filterFields, field.WellFormed) ∧
      ∀ stage ∈ pipeline, stage.validate = [] := by
  obtain ⟨sound, clear⟩ := Bool.and_eq_true_iff.mp valid
  constructor
  · intro field member
    have none := List.filterMap_eq_nil_iff.mp (List.isEmpty_iff.mp sound)
    exact Field.flaw?_eq_none_iff.mp (none field member)
  · intro stage member
    obtain ⟨index, there⟩ := List.mem_iff_getElem?.mp member
    refine List.eq_nil_iff_forall_not_mem.mpr fun error flawed => ?_
    have formed : ⟨index, .validation error⟩ ∈ AggregationSpec.formDiagnostics pipeline :=
      List.mem_flatMap.mpr ⟨(stage, index), List.mem_zipIdx_iff_getElem?.mpr there,
        List.mem_map_of_mem flawed⟩
    have shown : ⟨index, .validation error⟩ ∈
        (rebuild initial filterFields pipeline).diagnostics :=
      mem_diagnostics_rebuild.mpr (.inl formed)
    have blocked : (rebuild initial filterFields pipeline).diagnostics.any
        (·.issue.isBlocking) = true := List.any_eq_true.mpr ⟨_, shown, rfl⟩
    rw [blocked] at clear
    contradiction

theorem fieldsFor?_rebuild (index : Nat) :
    (rebuild initial filterFields pipeline).fieldsFor? index =
      pipeline[index]?.map (·.offeredAfter initial filterFields (pipeline.take index)) := by
  rw [fieldsFor?, rebuild, perStage_fieldsPerStage, List.getElem?_mapIdx]

theorem outputFields_rebuild :
    (rebuild initial filterFields pipeline).outputFields = fieldsAfter initial pipeline := by
  rw [outputFields, output, rebuild, output_fieldsPerStage, fieldsAfter]

theorem outputFields_new (fields : List Field) (pipeline : List Stage) :
    (new fields pipeline).outputFields = fieldsAfter fields pipeline := outputFields_rebuild

theorem showsValidFields_of_accumulatorsNamed
    (valid : (rebuild initial filterFields pipeline).isValid = true)
    (accumulators : ∀ stage ∈ pipeline, stage.AccumulatorsNamed) :
    (rebuild initial filterFields pipeline).ShowsValidFields := by
  obtain ⟨wellFormed, complete⟩ := isValid_rebuild valid
  have base : ∀ field ∈ initial, field.WellFormed := fun field member =>
    wellFormed field (List.mem_append_left _ member)
  have overlay : ∀ field ∈ overlayFields initial filterFields, field.WellFormed :=
    fun field member => wellFormed field (List.mem_append.mpr (mem_overlayFields member))
  constructor
  · intro index fields offered field member
    rw [fieldsFor?_rebuild, Option.map_eq_some_iff] at offered
    obtain ⟨stage, -, rfl⟩ := offered
    have earlier : ∀ stage ∈ pipeline.take index, stage.validate = [] := fun stage member =>
      complete stage (List.mem_of_mem_take member)
    have named : ∀ stage ∈ pipeline.take index, stage.AccumulatorsNamed := fun stage member =>
      accumulators stage (List.mem_of_mem_take member)
    refine (Field.validate_eq_ok_iff field).mpr ?_
    rcases Stage.mem_of_mem_offeredAfter member with there | there
    · exact wellFormed_fieldsAfter base earlier named field there
    · exact wellFormed_fieldsAfter overlay earlier named field there
  · intro field member
    rw [outputFields_rebuild] at member
    exact (Field.validate_eq_ok_iff field).mpr
      (wellFormed_fieldsAfter base complete accumulators field member)

/-- A scalar that some first stages leave over any initial fields is shown, to the next
stage or at the end. -/
theorem ShowsValidFields.exists_valid {Holds : Field → Prop} {index : Nat}
    (shows : (rebuild initial filterFields pipeline).ShowsValidFields)
    (always : ∀ fields, ∃ field ∈ fieldsAfter fields (pipeline.take index),
      field.isScalar = true ∧ Holds field) :
    ∃ field, Holds field ∧ field.validate = .ok () := by
  cases next : pipeline[index]? with
  | some later =>
      obtain ⟨field, offered, holds⟩ :=
        Stage.exists_mem_offeredAfter always later initial filterFields
      refine ⟨field, holds, shows.1 index _ ?_ field offered⟩
      rw [fieldsFor?_rebuild, next, Option.map_some]
  | none =>
      obtain ⟨field, left, -, holds⟩ := always initial
      have whole : pipeline.take index = pipeline :=
        List.take_of_length_le (List.getElem?_eq_none_iff.mp next)
      rw [whole, ← outputFields_rebuild] at left
      exact ⟨field, holds, shows.2 field left⟩

theorem accumulatorsNamed_of_showsValidFields
    (valid : (rebuild initial filterFields pipeline).isValid = true)
    (shows : (rebuild initial filterFields pipeline).ShowsValidFields) :
    ∀ stage ∈ pipeline, stage.AccumulatorsNamed := by
  obtain ⟨-, complete⟩ := isValid_rebuild valid
  intro stage member
  cases stage with
  | filter | sort | addFields | unwind | custom => trivial
  | group form =>
      intro computed inside named
      refine Bool.eq_false_iff.mpr fun blank => ?_
      obtain ⟨index, there⟩ := List.mem_iff_getElem?.mp member
      have always : ∀ fields, ∃ field ∈ fieldsAfter fields (pipeline.take (index + 1)),
          field.isScalar = true ∧ Text.isBlankText field.name = true := by
        intro fields
        rw [fieldsAfter_take_succ fields there]
        exact Stage.exists_blank_mem_output (complete _ member) inside named blank
      obtain ⟨field, unnamed, passes⟩ := shows.exists_valid always
      have nonblank := ((Field.validate_eq_ok_iff field).mp passes).named
      rw [unnamed] at nonblank
      contradiction

/-- However an editor came about, if it is valid, all fields that it shows are well formed
just if no computed field of a group is named by blanks. -/
theorem valid_editor_fields_iff (initialFields filterFields : List Field)
    (pipeline : List Stage) (operations : List Operation) :
    let editor := Run.play after ((new initialFields pipeline).withFilterFields filterFields)
      operations
    editor.isValid = true →
      (editor.ShowsValidFields ↔ ∀ stage ∈ editor.pipeline, stage.AccumulatorsNamed) := by
  intro editor valid
  have derived : Derived editor := derived_play initialFields filterFields pipeline operations
  rw [derived] at valid ⊢
  exact ⟨accumulatorsNamed_of_showsValidFields valid, showsValidFields_of_accumulatorsNamed valid⟩

/-- Counts the tags by label, once under a name and once under none. -/
def countLabels : List Stage :=
  [.unwind "tags",
    .group {
      groupBy := [{ field := "label" }]
      addFields := [⟨"total", ⟨"count", ""⟩⟩, ⟨"", ⟨"count", ""⟩⟩] }]

theorem countLabels_fields_valid :
    let editor := Run.play after ((new taggedFields []).withFilterFields taggedFields)
      [.setPipeline countLabels]
    editor.isValid = true ∧ Field.names editor.outputFields = ["label", "total"] ∧
      editor.ShowsValidFields := by
  intro editor
  have valid : editor.isValid = true := by decide +kernel
  have named : ∀ stage ∈ countLabels, stage.AccumulatorsNamed := by
    simp only [countLabels, List.forall_mem_cons, Stage.AccumulatorsNamed, true_and]
    exact ⟨⟨fun _ => by decide, fun nameless => absurd rfl nameless, nofun⟩, nofun⟩
  refine ⟨valid, by decide +kernel, ?_⟩
  exact (valid_editor_fields_iff _ _ _ [.setPipeline countLabels] valid).mpr named

/-- Counts by region, under a name made of a blank. -/
def countUnderBlank : List Stage :=
  [.group { groupBy := [{ field := "region" }], addFields := [⟨" ", ⟨"count", ""⟩⟩] }]

theorem countUnderBlank_field_malformed :
    let editor := new [.makeScalar "region" "String"] countUnderBlank
    editor.isValid = true ∧ .makeScalar " " "Int" ∈ editor.outputFields ∧
      (Field.makeScalar " " "Int").validate =
        .error (.malformedField " " "field name is empty") := by
  exact ⟨by decide +kernel, by decide +kernel, rfl⟩

end Aggregation.Editor
