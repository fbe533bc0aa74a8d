import Aggregation.Proofs.Field.WellFormed
import Aggregation.Proofs.Propagation.Offered

namespace Aggregation

/-! Stages that compute nothing.

They leave fields that were there, perhaps from further down or under other names, and one
more kind: where a list without sub-fields is unwound, a scalar of its type takes its place.
So whatever holds of all fields whatever their names stays true of all that they leave, if it
is true of these scalars.
-/

namespace Field

/-- Whether something holds of a field and of all below it. -/
inductive Deep (Holds : Field → Prop) : Field → Prop where
  | intro {field : Field} :
      Holds field → (∀ child ∈ field.children, Deep Holds child) → Deep Holds field

variable {Holds : Field → Prop} {field : Field}

theorem Deep.here (deep : field.Deep Holds) : Holds field := by
  cases deep
  assumption

theorem Deep.inside (deep : field.Deep Holds) : ∀ child ∈ field.children, child.Deep Holds := by
  cases deep
  assumption

theorem Deep.makeScalar {name typeName : String} (holds : Holds (.makeScalar name typeName)) :
    (Field.makeScalar name typeName).Deep Holds :=
  .intro holds fun _ member => (List.not_mem_nil member).elim

end Field

namespace Stage

/-- Whether a stage computes nothing. -/
inductive Uncomputed : Stage → Prop where
  | filter {whole : Filter.Group} : Uncomputed (.filter whole)
  | sort {field : String} {order : SortOrder} : Uncomputed (.sort field order)
  | unwind {field : String} : Uncomputed (.unwind field)
  | group {form : GroupForm} : (∀ rule ∈ form.groupBy, rule.computation? = none) →
      form.addFields = [] → Uncomputed (.group form)

theorem Uncomputed.checked {stage : Stage} (uncomputed : stage.Uncomputed) :
    stage.isCustom = false := by
  cases uncomputed <;> rfl

end Stage

theorem GroupByRule.output?_of_uncomputed {rule : GroupByRule} {available : List Field}
    {field : Field} (uncomputed : rule.computation? = none)
    (given : rule.output? available false = some field) :
    ∃ source, Field.resolve? available rule.field = some source ∧
      field = { source with name := rule.field } := by
  cases (output?_eq_some_iff rule field).mp given with
  | computed _ carried operates =>
      rw [computation?_eq_some_iff.mpr ⟨carried, operates⟩] at uncomputed
      contradiction
  | found _ _ found => exact ⟨_, found, rfl⟩
  | unknown _ _ _ marked => contradiction

namespace Stage

variable {available : List Field} {Holds : Field → Prop} {stage : Stage} {target : Field}
  {name : String}

/-- What holds of all fields before a stage that computes nothing, whatever their names, holds
of all that it leaves, if it holds of the element of a list that is unwound to one. -/
theorem deep_output (uncomputed : stage.Uncomputed)
    (renames : ∀ field name, Holds field → Holds { field with name })
    (element : ∀ name target, stage = .unwind name → Field.find? available name = some target →
      target.kind = .list → target.flaw? = none → target.children = [] →
        Holds (.makeScalar target.name target.typeName))
    (deep : ∀ field ∈ available, field.Deep Holds) :
    ∀ field ∈ stage.output available false, field.Deep Holds := by
  intro field left
  cases leaves_of_mem_output left with
  | kept kept => exact deep field kept
  | key inside given =>
      cases uncomputed with
      | group keys _ =>
          obtain ⟨source, found, rfl⟩ := GroupByRule.output?_of_uncomputed (keys _ inside) given
          have below : source.Deep Holds :=
            Field.descend?_keeps (fun _ outer => outer.inside) deep found
          exact .intro (renames source _ below.here) below.inside
  | accumulator inside given =>
      cases uncomputed with
      | group _ none =>
          rw [none] at inside
          contradiction
  | entry => contradiction
  | child found child => exact (deep _ (Field.mem_of_find? found)).inside field child
  | element found list flawless bare =>
      exact .makeScalar (element _ _ rfl found list flawless bare)

theorem element_mem_output {unchecked : Bool} (found : Field.find? available name = some target)
    (list : target.kind = .list) (flawless : target.flaw? = none) (bare : target.children = []) :
    .makeScalar target.name target.typeName ∈ (unwind name).output available unchecked := by
  let replaced (field : Field) : List Field :=
    if field.name = name then unwound available target else [field]
  have named : target.name = name := Field.name_of_find? found
  have nonempty : name.isEmpty = false := by
    have nonblank := (Field.flaw?_eq_none_iff.mp flawless).named
    rw [named] at nonblank
    refine Bool.eq_false_iff.mpr fun empty => ?_
    obtain rfl : name = "" := String.isEmpty_iff.mp empty
    contradiction
  have left : (unwind name).output available unchecked =
      Field.distinct (available.flatMap replaced) := by
    simp [output, nonempty, unwindOutput, found, list, flawless, replaced]
  have element : Field.makeScalar target.name target.typeName ∈ available.flatMap replaced := by
    refine List.mem_flatMap.mpr ⟨target, Field.mem_of_find? found, ?_⟩
    simp [replaced, named, unwound, bare]
  -- The name is kept, and nothing else that is left has it.
  obtain ⟨field, kept, same⟩ :=
    List.mem_map.mp (Field.mem_names_distinct.mpr (List.mem_map_of_mem element))
  obtain ⟨source, inside, origin⟩ := List.mem_flatMap.mp (Field.mem_of_mem_distinct kept)
  have only : field = .makeScalar target.name target.typeName := by
    by_cases here : source.name = name
    · simpa [replaced, here, unwound, bare] using origin
    · obtain rfl : field = source := by simpa [replaced, here] using origin
      exact absurd (same.trans named) here
  rw [left, ← only]
  exact kept

end Stage

/-- What holds of some fields holds of all that is made of them without computing. -/
theorem deep_fieldsAfter {Holds : Field → Prop} {fields : List Field} {stages : List Stage}
    (uncomputed : ∀ stage ∈ stages, stage.Uncomputed)
    (renames : ∀ field name, Holds field → Holds { field with name })
    (element : ∀ index name target, stages[index]? = some (.unwind name) →
      Field.find? (fieldsAfter fields (stages.take index)) name = some target →
        target.kind = .list → target.flaw? = none → target.children = [] →
          Holds (.makeScalar target.name target.typeName))
    (deep : ∀ field ∈ fields, field.Deep Holds) (index : Nat) :
    ∀ field ∈ fieldsAfter fields (stages.take index), field.Deep Holds := by
  have checked : ∀ stage ∈ stages, stage.isCustom = false := fun stage member =>
    (uncomputed stage member).checked
  refine fieldsAfter_take_keeps (fun available => ∀ field ∈ available, field.Deep Holds)
    (fun field member => deep field (Field.mem_of_mem_distinct member)) ?_ index
  intro index stage there deep
  rw [unchecked_propagate_eq_false fun stage member => checked stage (List.mem_of_mem_take member)]
  refine Stage.deep_output (uncomputed stage (List.mem_of_getElem? there)) renames ?_ deep
  rintro name target rfl
  exact element index name target there

end Aggregation
