import Aggregation.Proofs.Field.Lookup
import Aggregation.Proofs.Propagation.References
import Aggregation.Proofs.Propagation.Written

namespace Aggregation

/-! Whether what a stage is offered can be referred to.

Fields after a stage have distinct names, but a form refers to a field by a path, and
a path is cut at its dots.  Groups and computed fields make up names of their own, which
may have dots; such a name leads elsewhere or nowhere.  Every other field that is
offered is found by its name.
-/

namespace Field

/-- Whether paths can spell a field's name and all names below it. -/
inductive Plain : Field → Prop where
  | intro {field : Field} : field.name ≠ "" → '.' ∉ field.name.toList →
      (∀ child ∈ field.children, Plain child) → Plain field

variable {field : Field}

theorem Plain.named (plain : field.Plain) : field.name ≠ "" := by
  cases plain
  assumption

theorem Plain.undotted (plain : field.Plain) : '.' ∉ field.name.toList := by
  cases plain
  assumption

theorem Plain.inside (plain : field.Plain) : ∀ child ∈ field.children, child.Plain := by
  cases plain
  assumption

theorem Plain.makeScalar {name typeName : String} (named : name ≠ "")
    (undotted : '.' ∉ name.toList) : (Field.makeScalar name typeName).Plain :=
  .intro named undotted fun _ member => (List.not_mem_nil member).elim

end Field

namespace Stage

/-- Whether a stage makes up a field's name, as the key of a group or for a computed
field. -/
inductive Names : Stage → String → Prop where
  | key {form : GroupForm} {rule : GroupByRule} :
      rule ∈ form.groupBy → rule.field ≠ "" → Names (.group form) rule.field
  | accumulator {form : GroupForm} {computed : ComputedField} :
      computed ∈ form.addFields → computed.name ≠ "" → Names (.group form) computed.name
  | entry {entries : List ComputedField} {computed : ComputedField} :
      computed ∈ entries → computed.name ≠ "" → Names (.addFields entries) computed.name

end Stage

/-- Whether a field's name is plain or made up by one of some stages. -/
structure Field.Traced (stages : List Stage) (field : Field) : Prop where
  named : field.name ≠ ""
  origin : '.' ∈ field.name.toList → ∃ stage ∈ stages, stage.Names field.name
  below : ∀ child ∈ field.children, child.Plain

variable {stages : List Stage} {stage : Stage} {available : List Field} {field : Field}
  {unchecked : Bool} {name typeName : String}

theorem Field.Plain.traced (plain : field.Plain) : field.Traced stages where
  named := plain.named
  origin dotted := (plain.undotted dotted).elim
  below := plain.inside

theorem Field.Traced.makeScalar (member : stage ∈ stages) (names : stage.Names name)
    (named : name ≠ "") : (Field.makeScalar name typeName).Traced stages where
  named := named
  origin _ := ⟨stage, member, names⟩
  below _ member := (List.not_mem_nil member).elim

namespace GroupByRule

/-- A grouping rule leaves a field named by its path: a scalar, or the field that was
there. -/
theorem output?_eq_some {rule : GroupByRule}
    (given : rule.output? available unchecked = some field) :
    rule.field ≠ "" ∧
      ((∃ typeName, field = .makeScalar rule.field typeName) ∨
        ∃ source, Field.resolve? available rule.field = some source ∧
          field = { source with name := rule.field }) := by
  cases (output?_eq_some_iff rule field).mp given with
  | computed named => exact ⟨named, .inl ⟨_, rfl⟩⟩
  | found named _ found => exact ⟨named, .inr ⟨_, found, rfl⟩⟩
  | unknown named => exact ⟨named, .inl ⟨_, rfl⟩⟩

theorem output?_of_resolve? {path : String} (named : path ≠ "")
    (found : Field.resolve? available path = some field) :
    output? { field := path } available unchecked = some { field with name := path } :=
  (output?_eq_some_iff _ _).mpr (.found named nofun found)

end GroupByRule

namespace ComputedField

theorem output?_eq_some {computed : ComputedField}
    (given : computed.output? available = some field) :
    computed.name ≠ "" ∧
      field = .makeScalar computed.name (computed.expression.resultType available) := by
  cases (output?_eq_some_iff computed field).mp given with
  | scalar named => exact ⟨named, rfl⟩

end ComputedField

namespace Stage

/-- Where a field that a stage leaves comes from. -/
inductive Leaves (available : List Field) (unchecked : Bool) : Stage → Field → Prop where
  | kept {stage : Stage} {field : Field} : field ∈ available → Leaves available unchecked stage field
  | key {form : GroupForm} {rule : GroupByRule} {field : Field} : rule ∈ form.groupBy →
      rule.output? available unchecked = some field → Leaves available unchecked (.group form) field
  | accumulator {form : GroupForm} {computed : ComputedField} {field : Field} :
      computed ∈ form.addFields → computed.output? available = some field →
      Leaves available unchecked (.group form) field
  | entry {entries : List ComputedField} {computed : ComputedField} {field : Field} :
      computed ∈ entries → computed.output? available = some field →
      Leaves available unchecked (.addFields entries) field
  | child {name : String} {target field : Field} : Field.find? available name = some target →
      field ∈ target.children → Leaves available unchecked (.unwind name) field
  /-- An element of a list whose elements have no fields. -/
  | element {name : String} {target : Field} : Field.find? available name = some target →
      target.kind = .list → target.flaw? = none → target.children = [] →
      Leaves available unchecked (.unwind name) (.makeScalar target.name target.typeName)

theorem leaves_of_mem_unwindOutput (member : field ∈ unwindOutput available name) :
    Leaves available unchecked (.unwind name) field := by
  unfold unwindOutput at member
  split at member
  · next target found =>
    split at member
    · next opens =>
      obtain ⟨list, flawless⟩ : target.kind = .list ∧ target.flaw? = none := by simpa using opens
      obtain ⟨source, inside, member⟩ := List.mem_flatMap.mp (Field.mem_of_mem_distinct member)
      split at member
      · unfold unwound at member
        split at member
        · next bare =>
          obtain rfl := List.mem_singleton.mp member
          exact .element found list flawless bare
        · exact .child found (List.mem_filter.mp member).1
      · obtain rfl := List.mem_singleton.mp member
        exact .kept inside
    · exact .kept member
  · exact .kept member

theorem leaves_of_mem_output (left : field ∈ stage.output available unchecked) :
    Leaves available unchecked stage field := by
  cases stage with
  | group form =>
      rcases List.mem_append.mp (Field.mem_of_mem_distinct left) with key | accumulated
      · obtain ⟨rule, inside, given⟩ := List.mem_filterMap.mp key
        exact .key inside given
      · obtain ⟨computed, inside, given⟩ := List.mem_filterMap.mp accumulated
        exact .accumulator inside given
  | addFields entries =>
      rcases Field.mem_of_mem_foldl_put left with added | kept
      · obtain ⟨computed, inside, given⟩ := List.mem_filterMap.mp added
        exact .entry inside given
      · exact .kept kept
  | unwind name =>
      rw [output] at left
      split at left
      · exact .kept left
      · exact leaves_of_mem_unwindOutput left
  | filter | sort | custom => exact .kept left

theorem nodup_names_unwindOutput (distinct : (Field.names available).Nodup) (name : String) :
    (Field.names (unwindOutput available name)).Nodup := by
  unfold unwindOutput
  split
  · split
    · exact Field.nodup_names_distinct _
    · exact distinct
  · exact distinct

theorem nodup_names_output (distinct : (Field.names available).Nodup) (stage : Stage)
    (unchecked : Bool) : (Field.names (stage.output available unchecked)).Nodup := by
  cases stage with
  | group form => exact Field.nodup_names_distinct _
  | addFields entries => exact Field.nodup_names_foldl_put distinct _
  | unwind name =>
      rw [output]
      split
      · exact distinct
      · exact nodup_names_unwindOutput distinct name
  | filter | sort | custom => exact distinct

theorem traced_output (member : stage ∈ stages)
    (traced : ∀ field ∈ available, field.Traced stages) :
    ∀ field ∈ stage.output available unchecked, field.Traced stages := by
  intro field left
  cases leaves_of_mem_output left with
  | kept kept => exact traced field kept
  | key inside given =>
      obtain ⟨nonempty, ⟨typeName, rfl⟩ | ⟨source, found, rfl⟩⟩ := GroupByRule.output?_eq_some given
      · exact .makeScalar member (.key inside nonempty) nonempty
      · -- The path of a key may end below other fields, where all names are plain.
        have below : ∀ child ∈ source.children, child.Plain :=
          Field.descend?_keeps (fun field plain child below => (plain child below).inside)
            (fun field inside => (traced field inside).below) found
        exact ⟨nonempty, fun _ => ⟨_, member, .key inside nonempty⟩, below⟩
  | accumulator inside given =>
      obtain ⟨nonempty, rfl⟩ := ComputedField.output?_eq_some given
      exact .makeScalar member (.accumulator inside nonempty) nonempty
  | entry inside given =>
      obtain ⟨nonempty, rfl⟩ := ComputedField.output?_eq_some given
      exact .makeScalar member (.entry inside nonempty) nonempty
  | child found child =>
      -- Only here do children come to the top, under names that no stage made up.
      have outer := traced _ (Field.mem_of_find? found)
      exact (outer.below field child).traced
  | element found _ _ _ =>
      have outer := traced _ (Field.mem_of_find? found)
      exact ⟨outer.named, outer.origin, nofun⟩

end Stage

theorem nodup_names_fieldsAfter (fields : List Field) (stages : List Stage) :
    (Field.names (fieldsAfter fields stages)).Nodup :=
  Propagation.applyAll_keeps (fun p => (Field.names p.fields).Nodup)
    (fun stage _ p _ distinct => Stage.nodup_names_output distinct stage p.unchecked)
    (Field.nodup_names_distinct fields) 0

theorem traced_fieldsAfter {fields : List Field} (plain : ∀ field ∈ fields, field.Plain) :
    ∀ field ∈ fieldsAfter fields stages, field.Traced stages :=
  Propagation.applyAll_keeps (fun p => ∀ field ∈ p.fields, field.Traced stages)
    (fun _ member _ _ traced => Stage.traced_output member traced)
    (fun field inside => (plain field (Field.mem_of_mem_distinct inside)).traced) 0

/-- A value picked from a field has the type of the field that its path leads to. -/
theorem Expression.resultType_of_picksValue {operator : String} {path : String}
    (picks : picksValue operator = true) :
    resultType ⟨operator, path⟩ available = scalarType available path := by
  have cases : operator = "min" ∨ operator = "max" ∨ operator = "first" ∨ operator = "last" := by
    simpa [picksValue, or_assoc] using picks
  rcases cases with rfl | rfl | rfl | rfl <;> rfl

/-- Over plain fields, a stage can refer to a field that it is offered by its name just
if no earlier stage made up that name with a dot in it.  Such a reference is never
unknown, grouping by it leaves that very field, and a value picked from it has its
type. -/
theorem offered_field_resolves_iff (initial : List Field) (pipeline : List Stage) (index : Nat)
    (plain : ∀ field ∈ initial, field.Plain) :
    let offered := fieldsAfter initial (pipeline.take index)
    ∀ field ∈ offered,
      (Field.resolve? offered field.name = some field ↔
        ∀ earlier ∈ pipeline.take index, earlier.Names field.name →
          '.' ∉ field.name.toList) ∧
      (Field.resolve? offered field.name = some field →
        ⟨index, .schema (.unknownField field.name)⟩ ∉
            (propagate initial pipeline).diagnostics ∧
          (∀ unchecked, GroupByRule.output? { field := field.name } offered unchecked =
            some field) ∧
          ∀ operator, Expression.picksValue operator = true →
            Expression.resultType ⟨operator, field.name⟩ offered =
              if field.isScalar then field.typeName else "String") := by
  intro offered field member
  have distinct := nodup_names_fieldsAfter initial (pipeline.take index)
  have traced := traced_fieldsAfter plain field member
  refine ⟨?_, fun found => ⟨?_, ?_, ?_⟩⟩
  · rw [Field.resolve?_name_iff distinct member]
    constructor
    · exact fun undotted _ _ _ => undotted
    · intro unmade dotted
      obtain ⟨stage, earlier, names⟩ := traced.origin dotted
      exact unmade stage earlier names dotted
  · intro reported
    obtain ⟨stage, there, -⟩ := mem_diagnostics_iff.mp reported
    obtain ⟨-, -, slot, -, -, nowhere⟩ := (unknownField_reported_iff there).mp reported
    have leads : slot.find? offered field.name = some field := by
      cases slot with
      | sortField | unwindField => exact Field.find?_name distinct member
      | filterRule | groupKey | groupOperand | computedOperand => exact found
    rw [nowhere] at leads
    contradiction
  · intro unchecked
    rw [GroupByRule.output?_of_resolve? traced.named found]
    cases field
    rfl
  · intro operator picks
    rw [Expression.resultType_of_picksValue picks, Expression.scalarType, found]

def ownedFields : List Field :=
  [.makeScalar "region" "String", .makeObject "owner" "User" [.makeScalar "name" "String"]]

theorem ownedFields_plain : ∀ field ∈ ownedFields, field.Plain := by
  intro field member
  simp only [ownedFields, List.mem_cons, List.not_mem_nil, or_false] at member
  rcases member with rfl | rfl
  · exact .makeScalar (by decide) (by decide)
  · refine .intro (by decide) (by decide) fun child member => ?_
    obtain rfl := List.mem_singleton.mp member
    exact .makeScalar (by decide) (by decide)

/-- Groups by region and by the name of the owner, then filters by that name. -/
def filterByOwner : List Stage :=
  [.group { groupBy := [{ field := "region" }, { field := "owner.name" }] },
    .filter { filters := [.rule { field := "owner.name", operator := "eq" }] }]

theorem filterByOwner_region_resolves :
    let offered := fieldsAfter ownedFields (filterByOwner.take 1)
    (∀ field ∈ ownedFields, field.Plain) ∧ .makeScalar "region" "String" ∈ offered ∧
      Field.resolve? offered "region" = some (.makeScalar "region" "String") ∧
      ⟨1, .schema (.unknownField "region")⟩ ∉ (propagate ownedFields filterByOwner).diagnostics ∧
      Expression.resultType ⟨"max", "region"⟩ offered = "String" := by
  intro offered
  have member : Field.makeScalar "region" "String" ∈ offered := by decide
  obtain ⟨resolves, typed⟩ :=
    offered_field_resolves_iff ownedFields filterByOwner 1 ownedFields_plain _ member
  have found : Field.resolve? offered "region" = some (.makeScalar "region" "String") :=
    resolves.mpr fun _ _ _ => by decide
  obtain ⟨known, -, picked⟩ := typed found
  exact ⟨ownedFields_plain, member, found, known, picked "max" (by decide)⟩

/-- The name of the owner is offered to the filter, which cannot refer to it. -/
theorem filterByOwner_name_unresolved :
    let offered := fieldsAfter ownedFields (filterByOwner.take 1)
    (∀ field ∈ ownedFields, field.Plain) ∧
      .makeScalar "owner.name" "String" ∈ offered ∧
      Field.resolve? offered "owner.name" = none ∧
      ⟨1, .schema (.unknownField "owner.name")⟩ ∈
        (propagate ownedFields filterByOwner).diagnostics := by
  exact ⟨ownedFields_plain, by decide, by decide, by decide⟩

end Aggregation
