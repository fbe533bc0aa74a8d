import Aggregation.Proofs.Propagation.Prefix

namespace Aggregation

/-! Which references of a stage are checked.

A stage's form refers to fields in six slots.  Propagation reports a reference that
leads nowhere in five of them, each by its own rule; what the expression of a
grouping rule computes with is not looked at.  So a stage without such a report has
only references that lead to a field just if these expressions have.
-/

namespace Filter

/-- Whether a rule on `path` stands somewhere in a part of a filter. -/
inductive Node.Mentions (path : String) : Node → Prop where
  | rule {rule : Rule} : rule.field = path → Mentions path (.rule rule)
  | within {logic : Logic} {filters : List Node} {node : Node} :
      node ∈ filters → Mentions path node → Mentions path (.group logic filters)

mutual

theorem Node.mem_references_iff {path : String} :
    (node : Node) → (path ∈ node.references ↔ path ≠ "" ∧ node.Mentions path)
  | .group logic filters => by
      rw [Node.references, Node.mem_allReferences_iff filters]
      constructor
      · rintro ⟨given, node, member, mentions⟩
        exact ⟨given, .within member mentions⟩
      · rintro ⟨given, mentions⟩
        cases mentions with
        | within member mentions => exact ⟨given, _, member, mentions⟩
  | .rule r => by
      rw [Node.references]
      constructor
      · intro member
        split at member
        · contradiction
        · next given =>
            obtain rfl := List.mem_singleton.mp member
            exact ⟨by simpa using given, .rule rfl⟩
      · rintro ⟨given, mentions⟩
        cases mentions with
        | rule same =>
            subst same
            simp [given]

theorem Node.mem_allReferences_iff {path : String} :
    (nodes : List Node) →
      (path ∈ Node.allReferences nodes ↔ path ≠ "" ∧ ∃ node ∈ nodes, node.Mentions path)
  | [] => by simp [Node.allReferences]
  | node :: rest => by
      rw [Node.allReferences, List.mem_append, Node.mem_references_iff node,
        Node.mem_allReferences_iff rest, ← and_or_left]
      simp only [List.mem_cons, exists_eq_or_imp]

end

end Filter

namespace Stage

/-- Where a stage's form refers to a field. -/
inductive Slot where
  | filterRule
  | sortField
  | unwindField
  | groupKey
  /-- What the expression of a grouping rule computes with. -/
  | groupOperand
  /-- What the expression of a computed field computes with. -/
  | computedOperand

/-- The field that a reference in a slot leads to: stages that sort or unwind name
a field at the top, all else is a path. -/
def Slot.find? (slot : Slot) (available : List Field) (reference : String) : Option Field :=
  match slot with
  | sortField | unwindField => Field.find? available reference
  | _ => Field.resolve? available reference

/-- Whether a stage's form holds a text in a slot for references. -/
inductive Refers : Stage → Slot → String → Prop where
  | filterRule {whole : Filter.Group} {node : Filter.Node} {path : String} :
      node ∈ whole.filters → node.Mentions path → Refers (.filter whole) .filterRule path
  | sortField {field : String} {order : SortOrder} : Refers (.sort field order) .sortField field
  | unwindField {field : String} : Refers (.unwind field) .unwindField field
  | groupKey {form : GroupForm} {rule : GroupByRule} :
      rule ∈ form.groupBy → Refers (.group form) .groupKey rule.field
  | groupOperand {form : GroupForm} {rule : GroupByRule} {expression : Expression} :
      rule ∈ form.groupBy → rule.expression = some expression → expression.operator ≠ "" →
      Refers (.group form) .groupOperand expression.field
  | accumulator {form : GroupForm} {computed : ComputedField} :
      computed ∈ form.addFields → Refers (.group form) .computedOperand computed.expression.field
  | entry {entries : List ComputedField} {computed : ComputedField} :
      computed ∈ entries → Refers (.addFields entries) .computedOperand computed.expression.field

variable {stage : Stage} {available : List Field} {path : String}

theorem mem_pathReferences_iff (given : path ≠ "") :
    path ∈ stage.pathReferences ↔
      stage.Refers .filterRule path ∨ stage.Refers .groupKey path ∨
        stage.Refers .computedOperand path := by
  constructor
  · intro member
    cases stage with
    | filter whole =>
        obtain ⟨-, node, inside, mentions⟩ :=
          (Filter.Node.mem_allReferences_iff whole.filters).mp member
        exact .inl (.filterRule inside mentions)
    | group form =>
        rcases List.mem_append.mp member with key | operand
        · obtain ⟨rule, inside, rfl⟩ := List.mem_map.mp key
          exact .inr (.inl (.groupKey inside))
        · obtain ⟨computed, inside, rfl⟩ := List.mem_map.mp operand
          exact .inr (.inr (.accumulator inside))
    | addFields entries =>
        obtain ⟨computed, inside, rfl⟩ := List.mem_map.mp member
        exact .inr (.inr (.entry inside))
    | sort | unwind | custom => contradiction
  · rintro (refers | refers | refers)
    · cases refers with
      | filterRule inside mentions =>
          exact (Filter.Node.mem_allReferences_iff _).mpr ⟨given, _, inside, mentions⟩
    · cases refers with
      | groupKey inside => exact List.mem_append_left _ (List.mem_map_of_mem inside)
    · cases refers with
      | accumulator inside =>
          exact List.mem_append_right _
            (List.mem_map_of_mem (f := fun computed => computed.expression.field) inside)
      | entry inside =>
          exact List.mem_map_of_mem (f := fun computed => computed.expression.field) inside

theorem mem_nameReferences_iff :
    path ∈ stage.nameReferences ↔
      stage.Refers .sortField path ∨ stage.Refers .unwindField path := by
  constructor
  · intro member
    cases stage with
    | sort field order =>
        obtain rfl := List.mem_singleton.mp member
        exact .inl .sortField
    | unwind field =>
        obtain rfl := List.mem_singleton.mp member
        exact .inr .unwindField
    | filter | group | addFields | custom => contradiction
  · rintro (refers | refers) <;> cases refers <;> exact List.mem_singleton_self _

theorem isDangling_iff :
    isDangling available path = true ↔ path ≠ "" ∧ Field.resolve? available path = none := by
  simp [isDangling]

theorem isDanglingName_iff :
    isDanglingName available path = true ↔ path ≠ "" ∧ Field.find? available path = none := by
  simp [isDanglingName]

/-- A reference is found unresolved if it leads nowhere, unless a grouping rule
computes with it. -/
theorem mem_unresolved_iff :
    path ∈ stage.unresolved available ↔
      path ≠ "" ∧ ∃ slot, slot ≠ .groupOperand ∧ stage.Refers slot path ∧
        slot.find? available path = none := by
  rw [unresolved, List.mem_append, List.mem_filter, List.mem_filter, isDangling_iff,
    isDanglingName_iff]
  constructor
  · rintro (⟨member, given, nowhere⟩ | ⟨member, given, nowhere⟩)
    · rcases (mem_pathReferences_iff given).mp member with refers | refers | refers
      · exact ⟨given, .filterRule, nofun, refers, nowhere⟩
      · exact ⟨given, .groupKey, nofun, refers, nowhere⟩
      · exact ⟨given, .computedOperand, nofun, refers, nowhere⟩
    · rcases mem_nameReferences_iff.mp member with refers | refers
      · exact ⟨given, .sortField, nofun, refers, nowhere⟩
      · exact ⟨given, .unwindField, nofun, refers, nowhere⟩
  · rintro ⟨given, slot, checked, refers, nowhere⟩
    cases slot with
    | filterRule => exact .inl ⟨(mem_pathReferences_iff given).mpr (.inl refers), given, nowhere⟩
    | groupKey =>
        exact .inl ⟨(mem_pathReferences_iff given).mpr (.inr (.inl refers)), given, nowhere⟩
    | computedOperand =>
        exact .inl ⟨(mem_pathReferences_iff given).mpr (.inr (.inr refers)), given, nowhere⟩
    | sortField => exact .inr ⟨mem_nameReferences_iff.mpr (.inl refers), given, nowhere⟩
    | unwindField => exact .inr ⟨mem_nameReferences_iff.mpr (.inr refers), given, nowhere⟩
    | groupOperand => contradiction

end Stage

mutual

/-- Whatever is wrong with a field itself, it is not that it is unknown. -/
theorem Field.malformed_of_validate {error : SchemaError} :
    (field : Field) → field.validate = .error error →
      ∃ name reason, error = .malformedField name reason
  | ⟨name, kind, _, subFields⟩, flawed => by
      unfold Field.validate at flawed
      split at flawed
      · cases flawed
        exact ⟨_, _, rfl⟩
      · split at flawed
        · cases flawed
          exact ⟨_, _, rfl⟩
        · contradiction
        · cases flawed
          exact ⟨_, _, rfl⟩
        · exact Field.malformed_of_validateAll _ flawed

theorem Field.malformed_of_validateAll {error : SchemaError} :
    (fields : List Field) → Field.validateAll fields = .error error →
      ∃ name reason, error = .malformedField name reason
  | [], flawed => by contradiction
  | field :: rest, flawed => by
      rw [Field.validateAll] at flawed
      cases first : field.validate with
      | error _ =>
          rw [first] at flawed
          cases flawed
          exact Field.malformed_of_validate field first
      | ok _ =>
          rw [first] at flawed
          exact Field.malformed_of_validateAll rest flawed

end

namespace Stage

variable {available : List Field} {name path : String}

theorem unknownField_not_mem_sortNotes : .schema (.unknownField path) ∉ sortNotes available name := by
  unfold sortNotes
  split
  · split <;> simp
  · exact List.not_mem_nil

theorem unknownField_not_mem_unwindNotes :
    .schema (.unknownField path) ∉ unwindNotes available name := by
  unfold unwindNotes
  split
  · exact List.not_mem_nil
  · next target _ =>
    split
    · simp
    · cases flawed : target.flaw? with
      | none => simp
      | some flaw =>
          -- The one schema error that is noted is what the field's own check refuses.
          intro member
          obtain rfl : flaw = .unknownField path := by
            simpa [eq_comm] using member
          have refused : target.validate = .error (.unknownField path) := by
            unfold Field.flaw? at flawed
            split at flawed
            · contradiction
            · next refused => rw [refused, Option.some.inj flawed]
          obtain ⟨_, _, malformed⟩ := Field.malformed_of_validate target refused
          contradiction

/-- What else is noted about a stage is never an unknown field. -/
theorem unknownField_not_mem_notes (stage : Stage) (available : List Field) (path : String) :
    .schema (.unknownField path) ∉ stage.notes available := by
  cases stage with
  | sort name order =>
      simp only [notes]
      split
      · exact List.not_mem_nil
      · exact unknownField_not_mem_sortNotes
  | unwind name =>
      simp only [notes]
      split
      · exact List.not_mem_nil
      · exact unknownField_not_mem_unwindNotes
  | custom raw => simp [notes]
  | filter | group | addFields => exact List.not_mem_nil

end Stage

variable {fields : List Field} {stages : List Stage} {stage : Stage} {index : Nat} {path : String}

theorem Propagation.unknownField_mem_issues_iff {p : Propagation} :
    .schema (.unknownField path) ∈ p.issues stage ↔
      p.unchecked = false ∧ path ∈ stage.unresolved p.fields := by
  have unnoted := stage.unknownField_not_mem_notes p.fields path
  cases checked : p.unchecked <;> simp [issues, checked, unnoted]

/-- Unless a custom stage was passed, a stage is reported for exactly those references
that lead nowhere and that are no operand of a grouping rule. -/
theorem unknownField_reported_iff (there : stages[index]? = some stage) :
    ⟨index, .schema (.unknownField path)⟩ ∈ (propagate fields stages).diagnostics ↔
      (∀ earlier ∈ stages.take index, earlier.isCustom = false) ∧ path ≠ "" ∧
        ∃ slot, slot ≠ .groupOperand ∧ stage.Refers slot path ∧
          slot.find? (fieldsAfter fields (stages.take index)) path = none := by
  have known : (∃ other, stages[index]? = some other ∧ .schema (.unknownField path) ∈
        (propagate fields (stages.take index)).issues other) ↔
      .schema (.unknownField path) ∈ (propagate fields (stages.take index)).issues stage := by
    simp [there]
  rw [mem_diagnostics_iff, known, Propagation.unknownField_mem_issues_iff, unchecked_propagate,
    List.any_eq_false, Stage.mem_unresolved_iff]
  simp only [Bool.not_eq_true, fieldsAfter]

/-- A stage that no custom stage precedes and for which no unknown field is reported
refers to nothing but fields that are there, just if that is true of the operands of
its grouping rules. -/
theorem references_resolve_iff (there : stages[index]? = some stage)
    (unpreceded : ∀ earlier ∈ stages.take index, earlier.isCustom = false)
    (unreported : ∀ path,
      ⟨index, .schema (.unknownField path)⟩ ∉ (propagate fields stages).diagnostics) :
    (∀ slot path, stage.Refers slot path → path ≠ "" →
        ∃ field, slot.find? (fieldsAfter fields (stages.take index)) path = some field) ↔
      ∀ path, stage.Refers .groupOperand path → path ≠ "" →
        ∃ field, Field.resolve? (fieldsAfter fields (stages.take index)) path = some field := by
  constructor
  · intro all path
    exact all .groupOperand path
  · intro operands slot path refers given
    by_cases operand : slot = .groupOperand
    · subst operand
      exact operands path refers given
    · refine Option.ne_none_iff_exists'.mp fun nowhere => unreported path ?_
      exact (unknownField_reported_iff there).mpr
        ⟨unpreceded, given, slot, operand, refers, nowhere⟩

def taggedFields : List Field :=
  [.makeScalar "region" "String",
    .makeList "tags" "Tag" [.makeScalar "label" "String", .makeScalar "weight" "Int"]]

/-- Unwinds the tags, then groups by the maximum of a field. -/
def groupByMaximum (operand : String) : List Stage :=
  [.unwind "tags",
    .group { groupBy := [{ field := "region", expression := some ⟨"max", operand⟩ }] }]

theorem groupByMaximum_weight_resolves :
    let stages := groupByMaximum "weight"
    (∀ earlier ∈ stages.take 1, earlier.isCustom = false) ∧
      (∀ path, ⟨1, .schema (.unknownField path)⟩ ∉ (propagate taggedFields stages).diagnostics) ∧
      ∃ stage, stages[1]? = some stage ∧ ∀ slot path, stage.Refers slot path → path ≠ "" →
        ∃ field, slot.find? (fieldsAfter taggedFields (stages.take 1)) path = some field := by
  intro stages
  have silent : (propagate taggedFields stages).diagnostics = [] := by decide
  have unpreceded : ∀ earlier ∈ stages.take 1, earlier.isCustom = false := by decide
  have unreported (path : String) :
      ⟨1, .schema (.unknownField path)⟩ ∉ (propagate taggedFields stages).diagnostics := by
    rw [silent]
    exact List.not_mem_nil
  refine ⟨unpreceded, unreported, _, rfl, ?_⟩
  refine (references_resolve_iff rfl unpreceded unreported).mpr ?_
  intro path refers _
  cases refers with
  | groupOperand inside given _ =>
      obtain rfl := List.mem_singleton.mp inside
      cases given
      exact ⟨.makeScalar "weight" "Int", by decide⟩

/-- A maximum of a field that is not there goes unreported. -/
theorem groupByMaximum_mass_unreported :
    let stages := groupByMaximum "mass"
    (∀ earlier ∈ stages.take 1, earlier.isCustom = false) ∧
      (∀ path, ⟨1, .schema (.unknownField path)⟩ ∉ (propagate taggedFields stages).diagnostics) ∧
      ∃ stage, stages[1]? = some stage ∧ stage.Refers .groupOperand "mass" ∧
        Field.resolve? (fieldsAfter taggedFields (stages.take 1)) "mass" = none := by
  intro stages
  have silent : (propagate taggedFields stages).diagnostics = [] := by decide
  have computing : (⟨"max", "mass"⟩ : Expression).operator ≠ "" := by decide
  refine ⟨by decide, ?_, _, rfl, .groupOperand (List.mem_singleton_self _) rfl computing,
    by decide⟩
  intro path
  rw [silent]
  exact List.not_mem_nil

end Aggregation
