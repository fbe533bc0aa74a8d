import Aggregation.Proofs.Propagation.Computing

namespace Aggregation

/-! What a group leaves.

A group starts a new set of fields: its keys, then its accumulators, each of them worked out
from the fields before the stage alone.  Where two of them have one name, the later one gives
the schema and the earlier one the position.
-/

namespace GroupByRule

/-- Whether a grouping rule leaves a field. -/
def isKey (available : List Field) (unchecked : Bool) (rule : GroupByRule) : Bool :=
  rule.field ≠ "" && (rule.expression.any (·.operator ≠ "") ||
    (Field.resolve? available rule.field).isSome || unchecked)

variable {available : List Field} {unchecked : Bool} {rule : GroupByRule}

theorem name_output? (rule : GroupByRule) : (rule.output? available unchecked).map (·.name) =
    if rule.isKey available unchecked then some rule.field else none := by
  have computes : rule.computation?.isSome = rule.expression.any (·.operator ≠ "") := by
    rw [Bool.eq_iff_iff]
    simp [Option.isSome_iff_exists, computation?_eq_some_iff, Option.any_eq_true]
  rw [isKey, ← computes]
  by_cases named : rule.field = ""
  · simp [output?, named]
  · cases unchecked <;> cases computation : rule.computation? <;>
      cases resolved : Field.resolve? available rule.field <;>
      simp [output?, named, computation, resolved, Field.makeScalar]

end GroupByRule

namespace GroupForm

/-- An entry of a group's form: a key, or a value accumulated for each group. -/
inductive Entry where
  | key (rule : GroupByRule)
  | accumulator (computed : ComputedField)

/-- The entries in the order in which they write. -/
def entries (form : GroupForm) : List Entry :=
  form.groupBy.map .key ++ form.addFields.map .accumulator

namespace Entry

variable {available : List Field} {unchecked : Bool}

inductive Writes (available : List Field) (unchecked : Bool) : Entry → Field → Prop where
  | key {rule : GroupByRule} {field : Field} : rule.Writes available unchecked field →
      Writes available unchecked (.key rule) field
  | accumulator {computed : ComputedField} {field : Field} : computed.Writes available field →
      Writes available unchecked (.accumulator computed) field

def output? (available : List Field) (unchecked : Bool) : Entry → Option Field
  | key rule => rule.output? available unchecked
  | accumulator computed => computed.output? available

theorem output?_eq_some_iff (entry : Entry) (field : Field) :
    entry.output? available unchecked = some field ↔ entry.Writes available unchecked field := by
  cases entry with
  | key rule =>
      rw [output?, GroupByRule.output?_eq_some_iff]
      exact ⟨.key, fun | .key writes => writes⟩
  | accumulator computed =>
      rw [output?, ComputedField.output?_eq_some_iff]
      exact ⟨.accumulator, fun | .accumulator writes => writes⟩

end Entry

variable {available : List Field} {unchecked : Bool}

theorem output_eq_distinct (form : GroupForm) :
    (Stage.group form).output available unchecked =
      Field.distinct (form.entries.filterMap (·.output? available unchecked)) := by
  rw [Stage.output, entries, List.filterMap_append, List.filterMap_map, List.filterMap_map]
  rfl

theorem names_output (form : GroupForm) :
    Field.names ((Stage.group form).output available unchecked) =
      ((form.groupBy.filter (·.isKey available unchecked)).map (·.field) ++
        (form.addFields.map (·.name)).filter (· ≠ "")).eraseDups := by
  rw [Stage.output, Field.names_distinct, Field.names, List.map_append]
  refine congrArg List.eraseDups (congrArg₂ (· ++ ·) ?_ ?_)
  · exact Field.names_filterMap (·.isKey available unchecked) (·.field) form.groupBy
      GroupByRule.name_output?
  · exact ComputedField.names_written available form.addFields

theorem writtenLast_of_mem_output {form : GroupForm} {field : Field}
    (left : field ∈ (Stage.group form).output available unchecked) :
    Field.WrittenLast (Entry.Writes available unchecked) form.entries field := by
  rw [output_eq_distinct] at left
  exact Field.writtenLast_of_lastNamed? Entry.output?_eq_some_iff
    (Field.lastNamed?_of_mem_distinct left)

end GroupForm

/-- A group leaves its keys and then its accumulators, each name where it first occurs and with
the schema that the last entry to write it gives, worked out from the fields before the stage.
All else is gone: what follows comes out as it would with these fields from the start. -/
theorem group_replaces_fields (fields : List Field) (steps : List (Nat × Stage)) (index : Nat)
    (form : GroupForm) :
    let p := Propagation.reached fields steps
    let q := p.apply index (.group form)
    let unchecked := steps.any (·.2.isCustom)
    Field.names q.fields = ((form.groupBy.filter (·.isKey p.fields unchecked)).map (·.field) ++
        (form.addFields.map (·.name)).filter (· ≠ "")).eraseDups ∧
      (∀ field ∈ q.fields,
        Field.WrittenLast (GroupForm.Entry.Writes p.fields unchecked) form.entries field) ∧
      ∀ later : List (Nat × Stage),
        let whole := Run.play Propagation.step q later
        let alone := Run.play Propagation.step ⟨q.fields, [], unchecked⟩ later
        whole.fields = alone.fields ∧ whole.unchecked = alone.unchecked ∧
          whole.diagnostics = q.diagnostics ++ alone.diagnostics := by
  intro p q unchecked
  have marked : p.unchecked = unchecked := Propagation.unchecked_reached fields steps
  have output : q.fields = (Stage.group form).output p.fields unchecked := by
    rw [← marked]
    rfl
  refine ⟨?_, fun field left => ?_, fun later => ?_⟩
  · rw [output]
    exact form.names_output
  · rw [output] at left
    exact GroupForm.writtenLast_of_mem_output left
  · have unmarked : q.unchecked = unchecked := by
      rw [← marked]
      exact Bool.or_false p.unchecked
    have restart : q = (Propagation.mk q.fields [] unchecked).continuing q.diagnostics 0 := by
      rw [← unmarked, Propagation.continuing]
      simp only [List.map_nil, List.append_nil]
    intro whole alone
    have continued : whole = alone.continuing q.diagnostics 0 := by
      rw [← Propagation.play_continuing, ← restart]
    rw [continued]
    simp [Propagation.continuing]

/-- Groups by the name of an owner, by the month of a region, and by a field that is not there;
then accumulates over the region's name, and over a value that is accumulated as well. -/
def groupByOwnerMonth : GroupForm where
  groupBy := [{ field := "owner.name" },
    { field := "region", expression := some ⟨"month", "region"⟩ }, { field := "ghost" },
    { field := "" }]
  addFields := [{ name := "total", expression := ⟨"max", "weight"⟩ },
    { name := "region", expression := ⟨"first", "region"⟩ },
    { name := "", expression := ⟨"count", ""⟩ },
    { name := "peak", expression := ⟨"max", "total"⟩ }]

theorem groupByOwnerMonth_replaces :
    let region : Field := .makeScalar "region" "Region"
    let owner : Field := .makeObject "owner" "User" [.makeScalar "name" "Name"]
    let steps : List (Nat × Stage) := [(0, .custom "[]")]
    let p := Propagation.reached [region, owner, .makeScalar "weight" "Int"] steps
    let q := p.apply 1 (.group groupByOwnerMonth)
    let later := Run.play Propagation.step q
      [(2, .addFields [{ name := "heaviest", expression := ⟨"max", "weight"⟩ }])]
    Field.names q.fields = ["owner.name", "region", "ghost", "total", "peak"] ∧
      region ∈ q.fields ∧
      Field.WrittenLast (GroupForm.Entry.Writes p.fields true) groupByOwnerMonth.entries region ∧
      later.fields = [.makeScalar "owner.name" "Name", region, .makeScalar "ghost" "Unknown",
        .makeScalar "total" "Int", .makeScalar "peak" "String",
        .makeScalar "heaviest" "String"] := by
  intro region owner steps p q later
  obtain ⟨names, written, alone⟩ := group_replaces_fields
    [region, owner, .makeScalar "weight" "Int"] steps 1 groupByOwnerMonth
  have member : region ∈ q.fields := by decide
  refine ⟨?_, member, written region member, ?_⟩
  · rw [names]
    decide
  · rw [(alone _).1]
    decide

end Aggregation
