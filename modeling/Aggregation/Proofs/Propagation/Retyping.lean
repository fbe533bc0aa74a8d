import Mathlib.Data.List.Forall2
import Aggregation.Proofs.Propagation.Overlay

namespace Aggregation

/-! Fields with other types.

Stages look at the names, kinds and sub-fields of the fields before them, and at types only
to write them down again.  So two runs over fields that differ in types alone go the same
way: what is reported is the same, and so is what is left, but for types.
-/

/-- Whether fields are the same but for the names of types, at any depth. -/
def Field.Retyped (fields others : List Field) : Prop :=
  fields.map outline = others.map outline

namespace Stage

theorem unresolved_outline (stage : Stage) (available : List Field) :
    stage.unresolved (available.map Field.outline) = stage.unresolved available := by
  have paths : isDangling (available.map Field.outline) = isDangling available := by
    funext path
    rw [isDangling, isDangling, Field.resolve?_outline, Option.isNone_map]
  have names : isDanglingName (available.map Field.outline) = isDanglingName available := by
    funext name
    rw [isDanglingName, isDanglingName, Field.find?_outline, Option.isNone_map]
  rw [unresolved, paths, names, unresolved]

theorem sortNotes_outline (available : List Field) (name : String) :
    sortNotes (available.map Field.outline) name = sortNotes available name := by
  rw [sortNotes, Field.find?_outline, sortNotes]
  cases Field.find? available name with
  | none => rfl
  | some field => simp [Field.isScalar]

theorem droppedChildren_outline (available : List Field) (target : Field) :
    droppedChildren (available.map Field.outline) target.outline =
      (droppedChildren available target).map Field.outline := by
  rw [droppedChildren, Field.children_outline, List.filter_map, droppedChildren]
  simp only [Function.comp_def, Field.name_outline, Field.find?_outline, Option.isSome_map]

theorem unwindNotes_outline (available : List Field) (name : String) :
    unwindNotes (available.map Field.outline) name = unwindNotes available name := by
  rw [unwindNotes, Field.find?_outline, unwindNotes]
  cases Field.find? available name with
  | none => rfl
  | some target =>
      simp only [Option.map_some, Field.kind_outline, Field.flaw?_outline,
        droppedChildren_outline, List.map_map, Function.comp_def, Field.name_outline]

theorem notes_outline (stage : Stage) (available : List Field) :
    stage.notes (available.map Field.outline) = stage.notes available := by
  cases stage with
  | sort name order => rw [notes, sortNotes_outline, notes]
  | unwind name => rw [notes, unwindNotes_outline, notes]
  | filter | group | addFields | custom => rfl

end Stage

variable {fields others filterFields : List Field}

/-- A stage raises the same issues whatever the types before it. -/
theorem Propagation.issues_congr {p q : Propagation} (retyped : Field.Retyped p.fields q.fields)
    (both : p.unchecked = q.unchecked) (stage : Stage) : p.issues stage = q.issues stage := by
  have unresolved : stage.unresolved p.fields = stage.unresolved q.fields := by
    rw [← stage.unresolved_outline, retyped, stage.unresolved_outline]
  have notes : stage.notes p.fields = stage.notes q.fields := by
    rw [← stage.notes_outline, retyped, stage.notes_outline]
  rw [issues, both, unresolved, notes, issues]

theorem Field.Retyped.fieldsAfter (retyped : Retyped fields others) (stages : List Stage) :
    Retyped (fieldsAfter fields stages) (fieldsAfter others stages) :=
  map_outline_fieldsAfter retyped stages

theorem Field.Retyped.diagnostics_eq (retyped : Retyped fields others) (pipeline : List Stage) :
    (propagate fields pipeline).diagnostics = (propagate others pipeline).diagnostics := by
  rw [propagate, Propagation.diagnostics_applyAll, propagate, Propagation.diagnostics_applyAll]
  -- Before each stage the two runs have come to fields that again differ in types alone.
  have stepwise (i : Nat) (stage : Stage) :
      ((Propagation.start fields).applyAll 0 (pipeline.take i)).issues stage =
        ((Propagation.start others).applyAll 0 (pipeline.take i)).issues stage := by
    refine Propagation.issues_congr (retyped.fieldsAfter (pipeline.take i)) ?_ stage
    rw [unchecked_propagate, unchecked_propagate]
  simp only [stepwise]
  rfl

theorem Field.Retyped.offeredAfter (retyped : Retyped fields others) (stage : Stage)
    (before : List Stage) :
    Retyped (stage.offeredAfter fields [] before) (stage.offeredAfter others [] before) := by
  have left := retyped.fieldsAfter before
  cases stage with
  | sort name order =>
      have scalars (available : List Field) :
          (available.filter (·.isScalar)).map outline =
            (available.map outline).filter (·.isScalar) := by
        rw [List.filter_map]
        simp [Function.comp_def, isScalar]
      rw [Retyped, Stage.offeredAfter, Stage.offeredAfter, scalars, scalars, left]
  | filter | group | addFields | unwind | custom => exact left

/-- Over fields that differ in types alone, a pipeline reports the same, becomes unchecked
alike, and leaves and offers fields that differ in types alone.  So filter fields that do
nothing but retype initial fields keep what filters are offered the same but for types. -/
theorem retyped_runs_agree (fields others : List Field) (pipeline : List Stage)
    (retyped : Field.Retyped fields others) :
    (propagate fields pipeline).diagnostics = (propagate others pipeline).diagnostics ∧
    (propagate fields pipeline).unchecked = (propagate others pipeline).unchecked ∧
    Field.Retyped (propagate fields pipeline).fields (propagate others pipeline).fields ∧
    List.Forall₂ Field.Retyped (fieldsPerStage fields [] pipeline).perStage
      (fieldsPerStage others [] pipeline).perStage ∧
    ∀ filterFields, Overlays fields filterFields →
      ∀ index whole, pipeline[index]? = some (Stage.filter whole) →
        ∃ offered, (fieldsPerStage fields filterFields pipeline).perStage[index]? = some offered ∧
          Field.Retyped offered (fieldsAfter fields (pipeline.take index)) := by
  refine ⟨retyped.diagnostics_eq pipeline, ?_, retyped.fieldsAfter pipeline, ?_, ?_⟩
  · rw [unchecked_propagate, unchecked_propagate]
  · rw [perStage_fieldsPerStage, perStage_fieldsPerStage, List.forall₂_iff_get]
    refine ⟨by rw [List.length_mapIdx, List.length_mapIdx], fun i _ _ => ?_⟩
    simp only [List.get_eq_getElem, List.getElem_mapIdx]
    exact retyped.offeredAfter _ (pipeline.take i)
  · intro filterFields overlays index whole there
    refine ⟨fieldsAfter (overlayFields fields filterFields) (pipeline.take index), ?_, ?_⟩
    · rw [perStage_fieldsPerStage, List.getElem?_mapIdx, there, Option.map_some,
        Stage.offeredAfter_filter]
    · exact Field.Retyped.fieldsAfter overlays.map_outline (pipeline.take index)

/-- Unwinds the tags, groups by label with the highest severity, and filters by a field that is
gone by then. -/
def severityByLabel : List Stage :=
  [.unwind "tags",
    .group { groupBy := [{ field := "label" }], addFields := [⟨"worst", ⟨"max", "severity"⟩⟩] },
    .filter { filters := [.rule { field := "severity", operator := "eq" }] }]

theorem severityByLabel_unsteered :
    let fields : List Field :=
      [.makeList "tags" "Tag" [.makeScalar "label" "String"], .makeScalar "severity" "Int"]
    let typed : List Field :=
      [.makeList "tags" "Label" [.makeScalar "label" "Text"], .makeScalar "severity" "Level"]
    Field.Retyped fields typed ∧ Overlays fields typed ∧
      fieldsAfter typed severityByLabel = [.makeScalar "label" "Text", .makeScalar "worst" "Level"] ∧
      (propagate typed severityByLabel).diagnostics = [⟨2, .schema (.unknownField "severity")⟩] ∧
      ∃ offered, (fieldsPerStage fields typed severityByLabel).perStage[2]? = some offered ∧
        Field.Retyped offered [.makeScalar "label" "String", .makeScalar "worst" "Int"] := by
  intro fields typed
  have retyped : Field.Retyped fields typed := rfl
  have overlays : Overlays fields typed := by
    intro field member rich laid
    simp only [fields, List.mem_cons, List.not_mem_nil, or_false] at member
    rcases member with rfl | rfl
    all_goals
      cases laid
      rfl
  obtain ⟨reported, -, -, -, lockstep⟩ := retyped_runs_agree fields typed severityByLabel retyped
  refine ⟨retyped, overlays, by decide, ?_, lockstep typed overlays 2 _ rfl⟩
  rw [← reported]
  decide

end Aggregation
