import Mathlib.Data.List.Forall2
import Aggregation.Proofs.Field.Overriding
import Aggregation.Proofs.Propagation.Reached

namespace Aggregation

/-! What computed fields take the place of.

Each computed field is typed by the fields before the stage, not by those that the stage has
computed already, and takes the place of the field with its name.  Of entries with one name the
last one counts.
-/

namespace ComputedField

/-- What entries make of a field: the last of them with its name takes its place. -/
inductive Overrides (available : List Field) (entries : List ComputedField) :
    Field → Field → Prop where
  | untouched {field : Field} :
      (∀ computed ∈ entries, computed.name ≠ "" → computed.name ≠ field.name) →
      Overrides available entries field field
  | replaced {field scalar : Field} : scalar.name = field.name →
      Field.WrittenLast (Writes available) entries scalar →
      Overrides available entries field scalar

variable {available : List Field} {entries : List ComputedField}

theorem names_written (available : List Field) (entries : List ComputedField) :
    Field.names (entries.filterMap (·.output? available)) =
      (entries.map (·.name)).filter (· ≠ "") := by
  rw [Field.names_filterMap (·.name ≠ "") (·.name), List.filter_map]
  · rfl
  · intro computed
    by_cases named : computed.name = "" <;> simp [output?, named, Field.makeScalar]

theorem overrides_lastNamed? (entries : List ComputedField) (field : Field) :
    Overrides available entries field
      ((Field.lastNamed? (entries.filterMap (·.output? available)) field.name).getD field) := by
  cases last : Field.lastNamed? (entries.filterMap (·.output? available)) field.name with
  | none =>
      refine .untouched fun computed member named same => ?_
      refine Field.lastNamed?_eq_none_iff.mp last ?_
      rw [names_written, ← same]
      exact List.mem_filter.mpr ⟨List.mem_map_of_mem member, decide_eq_true named⟩
  | some scalar =>
      exact .replaced (Field.name_of_lastNamed? last)
        (Field.writtenLast_of_lastNamed? output?_eq_some_iff last)

end ComputedField

namespace Stage

variable {available : List Field}

theorem output_addFields (distinct : (Field.names available).Nodup)
    (entries : List ComputedField) (unchecked : Bool) :
    ∃ kept added, (addFields entries).output available unchecked = kept ++ added ∧
      List.Forall₂ (ComputedField.Overrides available entries) available kept ∧
      Field.names added = ((entries.map (·.name)).filter fun name =>
        name ≠ "" ∧ name ∉ Field.names available).eraseDups ∧
      ∀ field ∈ added, Field.WrittenLast (ComputedField.Writes available) entries field := by
  let written := entries.filterMap (·.output? available)
  let fresh := ((Field.names written).filter fun name => name ∉ Field.names available).eraseDups
  have freshNames : fresh = ((entries.map (·.name)).filter fun name =>
      name ≠ "" ∧ name ∉ Field.names available).eraseDups := by
    simp only [fresh, written, ComputedField.names_written, List.filter_filter]
    refine congrArg List.eraseDups (List.filter_congr fun name _ => ?_)
    simp [Bool.and_comm]
  have listed : ∀ name ∈ fresh, name ∈ Field.names written :=
    fun name member => (List.mem_filter.mp (List.mem_eraseDups.mp member)).1
  refine ⟨_, _, Field.foldl_put_eq distinct written, ?_, ?_, ?_⟩
  · refine List.forall₂_map_right_iff.mpr (List.forall₂_same.mpr fun field _ => ?_)
    exact ComputedField.overrides_lastNamed? entries field
  · rw [← freshNames]
    exact Field.names_filterMap_lastNamed? listed
  · intro field member
    obtain ⟨name, -, last⟩ := List.mem_filterMap.mp member
    exact Field.writtenLast_of_lastNamed? ComputedField.output?_eq_some_iff last

end Stage

theorem Propagation.issues_addFields {p : Propagation} (entries : List ComputedField)
    (checked : p.unchecked = false) :
    p.issues (.addFields entries) =
      (entries.filter fun computed => computed.expression.field ≠ "" ∧
        Field.resolve? p.fields computed.expression.field = none).map fun computed =>
          .schema (.unknownField computed.expression.field) := by
  have unresolved : (Stage.addFields entries).unresolved p.fields =
      (entries.filter fun computed => computed.expression.field ≠ "" ∧
        Field.resolve? p.fields computed.expression.field = none).map (·.expression.field) := by
    simp only [Stage.unresolved, Stage.pathReferences, Stage.nameReferences, List.filter_map,
      List.filter_nil, List.append_nil]
    refine congrArg (List.map _) (List.filter_congr fun computed _ => ?_)
    rw [Function.comp_apply, Bool.eq_iff_iff, decide_eq_true_iff, Stage.isDangling_iff]
  rw [issues, unresolved, checked]
  simp [Stage.notes]

/-- Computed fields take the places of the fields with their names, and the others follow in the
order in which each name first occurs.  Whatever name it is, the last entry with it counts, and
it is typed by the fields before the stage.  Unless a custom stage was passed, each entry is
reported that computes with an unknown field. -/
theorem computed_in_place (fields : List Field) (steps : List (Nat × Stage)) (index : Nat)
    (entries : List ComputedField) :
    let p := Propagation.reached fields steps
    let q := p.apply index (.addFields entries)
    (∃ kept added, q.fields = kept ++ added ∧
      List.Forall₂ (ComputedField.Overrides p.fields entries) p.fields kept ∧
      Field.names added = ((entries.map (·.name)).filter fun name =>
        name ≠ "" ∧ name ∉ Field.names p.fields).eraseDups ∧
      ∀ field ∈ added, Field.WrittenLast (ComputedField.Writes p.fields) entries field) ∧
    (p.unchecked = false → q.diagnostics = p.diagnostics ++
      (entries.filter fun computed => computed.expression.field ≠ "" ∧
        Field.resolve? p.fields computed.expression.field = none).map fun computed =>
          ⟨index, .schema (.unknownField computed.expression.field)⟩) := by
  intro p q
  have distinct : (Field.names p.fields).Nodup := Propagation.nodup_names_reached fields steps
  refine ⟨Stage.output_addFields distinct entries p.unchecked, fun checked => ?_⟩
  have noticed : q.diagnostics =
      p.diagnostics ++ (p.issues (.addFields entries)).map (⟨index, ·⟩) := rfl
  rw [noticed, Propagation.issues_addFields entries checked, List.map_map]
  rfl

/-- The weight anew, from another field; its old value in a field of its own; a total, twice;
and one entry without a name. -/
def weightEntries : List ComputedField :=
  [{ name := "weight", expression := ⟨"max", "label"⟩ },
    { name := "total", expression := ⟨"max", "label"⟩ },
    { name := "", expression := ⟨"sum", "mass"⟩ },
    { name := "weight", expression := ⟨"last", "region"⟩ },
    { name := "former", expression := ⟨"first", "weight"⟩ },
    { name := "total", expression := ⟨"sum", "total"⟩ }]

theorem weightEntries_computed :
    let region : Field := .makeScalar "region" "Region"
    let label : Field := .makeScalar "label" "String"
    let p := Propagation.reached [region, .makeScalar "weight" "Int", label] [(0, .unwind "label")]
    let q := p.apply 3 (.addFields weightEntries)
    p.unchecked = false ∧
      q.fields = [region, .makeScalar "weight" "Region", label, .makeScalar "total" "Float",
        .makeScalar "former" "Int"] ∧
      (∃ kept added, q.fields = kept ++ added ∧ Field.names added = ["total", "former"]) ∧
      q.diagnostics = [⟨0, .warning (.unwindNotList "label" "SCALAR")⟩,
        ⟨3, .schema (.unknownField "mass")⟩, ⟨3, .schema (.unknownField "total")⟩] := by
  intro region label p q
  have checked : p.unchecked = false := by decide
  obtain ⟨⟨kept, added, whole, -, new, -⟩, noted⟩ :=
    computed_in_place [region, .makeScalar "weight" "Int", label] [(0, .unwind "label")] 3
      weightEntries
  refine ⟨checked, by decide, ⟨kept, added, whole, ?_⟩, ?_⟩
  · rw [new]
    decide
  · rw [noted checked]
    decide

end Aggregation
