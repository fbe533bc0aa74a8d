import Aggregation.Proofs.Field.WellFormed
import Aggregation.Proofs.Propagation.Offered

namespace Aggregation

/-! Flaws along a pipeline.

Over well-formed fields no stage ever comes upon a malformed one.  A stage may leave fields
under bad names, since computed names and the keys of groups are taken as they are.  But it
makes nothing but scalars, and only a list is checked when a stage gets to it.
-/

namespace Field

/-- Whether nothing is wrong with a field, unless it is a scalar with a blank name. -/
inductive Unflawed : Field → Prop where
  | scalar {name typeName : String} : Unflawed (.makeScalar name typeName)
  | wellFormed {field : Field} : field.WellFormed → Unflawed field

variable {fields : List Field} {field source : Field} {path : String}

theorem Unflawed.inside (unflawed : field.Unflawed) : ∀ child ∈ field.children, child.Unflawed := by
  cases unflawed with
  | scalar => exact nofun
  | wellFormed wellFormed => exact fun child member => .wellFormed (wellFormed.inside child member)

theorem Unflawed.of_resolve? (unflawed : ∀ field ∈ fields, field.Unflawed)
    (found : resolve? fields path = some source) : source.Unflawed :=
  descend?_keeps (fun _ outer => outer.inside) unflawed found

/-- A path of blanks leads at most to a field that is so named. -/
theorem name_of_resolve?_blank (blank : Text.isBlankText path = true)
    (found : resolve? fields path = some source) : source.name = path := by
  have undotted : '.' ∉ path.toList := by
    intro dotted
    have dot : Text.isBlank '.' = true := List.all_eq_true.mp blank '.' dotted
    contradiction
  rw [resolve?_of_undotted undotted] at found
  exact name_of_find? found

/-- A field may go by the path that leads to it. -/
theorem Unflawed.rename (unflawed : ∀ field ∈ fields, field.Unflawed)
    (found : resolve? fields path = some source) : { source with name := path }.Unflawed := by
  cases Unflawed.of_resolve? unflawed found with
  | scalar => exact .scalar
  | wellFormed wellFormed =>
      refine .wellFormed (wellFormed.rename (Bool.eq_false_iff.mpr fun blank => ?_))
      have nonblank := wellFormed.named
      rw [name_of_resolve?_blank blank found, blank] at nonblank
      contradiction

end Field

namespace Stage

variable {stage : Stage} {available : List Field} {unchecked : Bool} {name : String}

theorem unflawed_output (unflawed : ∀ field ∈ available, field.Unflawed) :
    ∀ field ∈ stage.output available unchecked, field.Unflawed := by
  intro field left
  cases leaves_of_mem_output left with
  | kept kept => exact unflawed field kept
  | key inside given =>
      obtain ⟨-, ⟨typeName, rfl⟩ | ⟨source, found, rfl⟩⟩ := GroupByRule.output?_eq_some given
      · exact .scalar
      · exact .rename unflawed found
  | accumulator inside given =>
      obtain ⟨-, rfl⟩ := ComputedField.output?_eq_some given
      exact .scalar
  | entry inside given =>
      obtain ⟨-, rfl⟩ := ComputedField.output?_eq_some given
      exact .scalar
  | child found child => exact (unflawed _ (Field.mem_of_find? found)).inside field child
  | element => exact .scalar

theorem schema_not_mem_unwindNotes {flaw : SchemaError}
    (unflawed : ∀ field ∈ available, field.Unflawed) :
    .schema flaw ∉ unwindNotes available name := by
  unfold unwindNotes
  split
  · exact List.not_mem_nil
  · next target found =>
    split
    · simp
    · next list =>
      have kind : target.kind = .list := by simpa using list
      cases unflawed target (Field.mem_of_find? found) with
      | scalar => contradiction
      | wellFormed wellFormed => simp [Field.flaw?_eq_none_iff.mpr wellFormed]

theorem schema_not_mem_notes {flaw : SchemaError}
    (unflawed : ∀ field ∈ available, field.Unflawed) :
    .schema flaw ∉ stage.notes available := by
  cases stage with
  | unwind name =>
      rw [notes]
      split
      · exact List.not_mem_nil
      · exact schema_not_mem_unwindNotes unflawed
  | sort name order =>
      rw [notes, sortNotes]
      split
      · exact List.not_mem_nil
      · split
        · split <;> simp
        · exact List.not_mem_nil
  | filter | group | addFields | custom => simp [notes]

end Stage

variable {fields : List Field}

theorem unflawed_fieldsAfter (wellFormed : ∀ field ∈ fields, field.WellFormed)
    (stages : List Stage) : ∀ field ∈ fieldsAfter fields stages, field.Unflawed :=
  Propagation.applyAll_keeps (fun p => ∀ field ∈ p.fields, field.Unflawed)
    (fun _ _ _ _ unflawed => Stage.unflawed_output unflawed)
    (fun field inside => .wellFormed (wellFormed field (Field.mem_of_mem_distinct inside))) 0

/-- Over well-formed fields, no run of any stages reports a malformed one. -/
theorem malformed_unreported (wellFormed : ∀ field ∈ fields, field.WellFormed)
    (pipeline : List Stage) (index : Nat) (name reason : String) :
    ⟨index, .schema (.malformedField name reason)⟩ ∉
      (propagate fields pipeline).diagnostics := by
  intro reported
  obtain ⟨stage, -, raised⟩ := mem_diagnostics_iff.mp reported
  rcases List.mem_append.mp raised with unresolved | noted
  · split at unresolved
    · contradiction
    · simp at unresolved
  · exact Stage.schema_not_mem_notes (unflawed_fieldsAfter wellFormed (pipeline.take index)) noted

end Aggregation
