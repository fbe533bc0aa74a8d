import Aggregation.Proofs.Field.WellFormed
import Aggregation.Proofs.Propagation.Offered

namespace Aggregation

/-! Whether a pipeline keeps its fields well formed.

Stages take fields over, or the children of fields, which are well formed if those were;
all else that they leave are scalars under names of their own.  So it is these names that
matter.  A complete form has no blank name, with one exception: a computed field of a
group may go without a name, and then leaves no field, but blanks count as a name.
-/

namespace Stage

variable {stage : Stage} {form : GroupForm} {computed : ComputedField} {available : List Field}
  {unchecked : Bool} {name text path : String}

theorem requireText_eq_nil_iff : requireText text path = [] ↔ Text.isBlankText text = false := by
  simp [requireText]

theorem flatMap_zipIdx_eq_nil_iff {α β : Type} {items : List α} {errors : α × Nat → List β} :
    items.zipIdx.flatMap errors = [] ↔
      ∀ index item, items[index]? = some item → errors (item, index) = [] := by
  rw [List.flatMap_eq_nil_iff]
  constructor
  · intro none index item there
    exact none (item, index) (List.mem_zipIdx_iff_getElem?.mpr there)
  · intro none pair member
    exact none pair.2 pair.1 (List.mem_zipIdx_iff_getElem?.mp member)

/-- Whether all computed fields of a group that have a name have one that is not blank. -/
def AccumulatorsNamed : Stage → Prop
  | group form => ∀ computed ∈ form.addFields, computed.name ≠ "" →
    Text.isBlankText computed.name = false
  | _ => True

theorem key_nonblank (complete : (group form).validate = []) :
    ∀ rule ∈ form.groupBy, Text.isBlankText rule.field = false := by
  intro rule member
  obtain ⟨index, there⟩ := List.mem_iff_getElem?.mp member
  have keys := (List.append_eq_nil_iff.mp complete).1
  exact requireText_eq_nil_iff.mp (flatMap_zipIdx_eq_nil_iff.mp keys index rule there)

theorem entry_nonblank {entries : List ComputedField}
    (complete : (addFields entries).validate = []) :
    ∀ computed ∈ entries, Text.isBlankText computed.name = false := by
  intro computed member
  obtain ⟨index, there⟩ := List.mem_iff_getElem?.mp member
  have items := (List.append_eq_nil_iff.mp complete).2
  have item := flatMap_zipIdx_eq_nil_iff.mp items index computed there
  exact requireText_eq_nil_iff.mp (List.append_eq_nil_iff.mp item).1

theorem Names.nonblank (names : stage.Names name) (complete : stage.validate = [])
    (accumulators : stage.AccumulatorsNamed) : Text.isBlankText name = false := by
  cases names with
  | key member => exact key_nonblank complete _ member
  | accumulator member named => exact accumulators _ member named
  | entry member => exact entry_nonblank complete _ member

/-- A stage with good names of its own keeps fields well formed. -/
theorem wellFormed_output (nonblank : ∀ name, stage.Names name → Text.isBlankText name = false)
    (wellFormed : ∀ field ∈ available, field.WellFormed) :
    ∀ field ∈ stage.output available unchecked, field.WellFormed := by
  intro field left
  cases leaves_of_mem_output left with
  | kept kept => exact wellFormed field kept
  | key inside given =>
      obtain ⟨nonempty, origin⟩ := GroupByRule.output?_eq_some given
      have named := nonblank _ (.key inside nonempty)
      rcases origin with ⟨typeName, rfl⟩ | ⟨source, found, rfl⟩
      · exact .scalar named
      · exact (Field.wellFormed_of_resolve? wellFormed found).rename named
  | accumulator inside given =>
      obtain ⟨nonempty, rfl⟩ := ComputedField.output?_eq_some given
      exact .scalar (nonblank _ (.accumulator inside nonempty))
  | entry inside given =>
      obtain ⟨nonempty, rfl⟩ := ComputedField.output?_eq_some given
      exact .scalar (nonblank _ (.entry inside nonempty))
  | child found child => exact (wellFormed _ (Field.mem_of_find? found)).inside field child
  | element found _ _ _ => exact .scalar (wellFormed _ (Field.mem_of_find? found)).named

/-- A computed field that is named by blanks makes a complete group leave a scalar so
named. -/
theorem exists_blank_mem_output (complete : (group form).validate = [])
    (member : computed ∈ form.addFields) (named : computed.name ≠ "")
    (blank : Text.isBlankText computed.name = true) :
    ∃ field ∈ (group form).output available unchecked,
      field.isScalar = true ∧ Text.isBlankText field.name = true := by
  have left : computed.name ∈ Field.names ((group form).output available unchecked) := by
    let added : Field := .makeScalar computed.name (computed.expression.resultType available)
    have given : computed.output? available = some added := by
      simp [ComputedField.output?, named, added]
    have inside : added ∈ form.addFields.filterMap (·.output? available) :=
      List.mem_filterMap.mpr ⟨computed, member, given⟩
    exact Field.mem_names_distinct.mpr
      (List.mem_map.mpr ⟨added, List.mem_append_right _ inside, rfl⟩)
  obtain ⟨field, there, same⟩ := List.mem_map.mp left
  have unnamed : Text.isBlankText field.name = true := same ▸ blank
  refine ⟨field, there, ?_, unnamed⟩
  rcases List.mem_append.mp (Field.mem_of_mem_distinct there) with key | accumulated
  · -- The forms of the keys are complete, so none of them is blank.
    obtain ⟨rule, inside, given⟩ := List.mem_filterMap.mp key
    have nonblank := key_nonblank complete rule inside
    obtain ⟨-, ⟨typeName, rfl⟩ | ⟨source, -, rfl⟩⟩ := GroupByRule.output?_eq_some given
    all_goals
      have unnamed : Text.isBlankText rule.field = true := unnamed
      rw [nonblank] at unnamed
      contradiction
  · obtain ⟨other, -, given⟩ := List.mem_filterMap.mp accumulated
    obtain ⟨-, rfl⟩ := ComputedField.output?_eq_some given
    rfl

end Stage

variable {initial filterFields : List Field} {stages : List Stage} {field : Field}

/-- Complete forms keep fields well formed, but for blank names in groups. -/
theorem wellFormed_fieldsAfter (wellFormed : ∀ field ∈ initial, field.WellFormed)
    (complete : ∀ stage ∈ stages, stage.validate = [])
    (accumulators : ∀ stage ∈ stages, stage.AccumulatorsNamed) :
    ∀ field ∈ fieldsAfter initial stages, field.WellFormed :=
  Propagation.applyAll_keeps (fun p => ∀ field ∈ p.fields, field.WellFormed)
    (fun stage member _ _ wellFormed => Stage.wellFormed_output
      (fun _ names => names.nonblank (complete stage member) (accumulators stage member))
      wellFormed)
    (fun field inside => wellFormed field (Field.mem_of_mem_distinct inside)) 0

theorem mem_overlayFields (member : field ∈ overlayFields initial filterFields) :
    field ∈ initial ∨ field ∈ filterFields := by
  obtain ⟨base, inside, rfl⟩ := List.mem_map.mp member
  cases found : Field.find? filterFields base.name with
  | none => exact .inl inside
  | some rich => exact .inr (Field.mem_of_find? found)

namespace Stage

variable {stage : Stage}

/-- What a stage is offered is among the fields at its position, those of the overlay
included. -/
theorem mem_of_mem_offeredAfter (offered : field ∈ stage.offeredAfter initial filterFields stages) :
    field ∈ fieldsAfter initial stages ∨
      field ∈ fieldsAfter (overlayFields initial filterFields) stages := by
  cases stage with
  | filter whole =>
      rw [offeredAfter] at offered
      split at offered
      · exact .inl offered
      · exact .inr offered
  | sort name order => exact .inl (List.mem_filter.mp offered).1
  | group | addFields | unwind | custom => exact .inl offered

/-- A scalar that is there over any initial fields is offered to every stage. -/
theorem exists_mem_offeredAfter {Holds : Field → Prop}
    (always : ∀ fields, ∃ field ∈ fieldsAfter fields stages, field.isScalar = true ∧ Holds field)
    (stage : Stage) (initial filterFields : List Field) :
    ∃ field ∈ stage.offeredAfter initial filterFields stages, Holds field := by
  cases stage with
  | filter whole =>
      rw [offeredAfter]
      split
      · obtain ⟨field, there, -, holds⟩ := always initial
        exact ⟨field, there, holds⟩
      · obtain ⟨field, there, -, holds⟩ := always (overlayFields initial filterFields)
        exact ⟨field, there, holds⟩
  | sort name order =>
      obtain ⟨field, there, scalar, holds⟩ := always initial
      exact ⟨field, List.mem_filter.mpr ⟨there, scalar⟩, holds⟩
  | group | addFields | unwind | custom =>
      obtain ⟨field, there, -, holds⟩ := always initial
      exact ⟨field, there, holds⟩

end Stage

end Aggregation
