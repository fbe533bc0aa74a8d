import Mathlib
import Aggregation.Spec
import Aggregation.Proofs.Filter.Reading

namespace Aggregation

/-! A saved aggregation is read back as it was.

It is written with the members of every record in their order, and a store may keep it as a
value, whose keys are sorted.  Either way each record is read back from its members.  A part
of a filter is told by the member that only a group has.  One thing has no written form: a
rule that compares with `null`, since `null` says that there is nothing to compare with.
No text reads as such a rule.
-/

/-- Whether something is read from a tree, and as well from the value of the tree. -/
structure ReadsBack {α : Type} (read : Json → Option α) (tree : Json) (result : α) : Prop where
  written : read tree = some result
  stored : ∃ value, tree.value? = some value ∧ read value = some result

section Lists

variable {α : Type} {read : Json → Option α} {write : α → Json} {results : List α}

theorem exists_values_read (each : ∀ result ∈ results, ReadsBack read (write result) result) :
    ∃ values, Json.values? (results.map write) = some values ∧
      values.mapM read = some results := by
  induction results with
  | nil => exact ⟨[], rfl, rfl⟩
  | cons first rest ih =>
      obtain ⟨value, denoted, back⟩ := (each first List.mem_cons_self).stored
      obtain ⟨values, others, backs⟩ := ih fun result member =>
        each result (List.mem_cons_of_mem first member)
      exact ⟨value :: values, by simp [Json.values?, denoted, others],
        by simp [List.mapM_cons, back, backs]⟩

theorem ReadsBack.list (each : ∀ result ∈ results, ReadsBack read (write result) result) :
    ReadsBack (Json.list? read) (.array (results.map write)) results where
  written := by
    have first : ∀ result ∈ results, read (write result) = some result := fun result member =>
      (each result member).written
    exact Json.mapM_eq_some_iff.mpr (List.forall₂_map_left_iff.mpr (List.forall₂_same.mpr first))
  stored := by
    obtain ⟨values, denoted, back⟩ := exists_values_read each
    exact ⟨.array values, by simp [Json.value?, denoted], back⟩

end Lists

theorem ReadsBack.object {α : Type} {read : Json → Option α} {result : α}
    {entries values : List (String × Json)} (each : Json.entryValues? entries = some values)
    (written : read (.object entries) = some result)
    (stored : read (Json.sortedObject values) = some result) :
    ReadsBack read (.object entries) result where
  written := written
  stored := ⟨_, by rw [Json.value?, each, Option.map_some, Json.sortedObject], stored⟩

theorem ReadsBack.map {α β : Type} {read : Json → Option α} {tree : Json} {result : α}
    (back : ReadsBack read tree result) (change : α → β) :
    ReadsBack (fun tree => (read tree).map change) tree (change result) where
  written := by rw [back.written, Option.map_some]
  stored := by
    obtain ⟨value, denoted, read⟩ := back.stored
    exact ⟨value, denoted, by rw [read, Option.map_some]⟩

theorem Expression.readsBack (expression : Expression) :
    ReadsBack ofJson? expression.toJson expression :=
  .object rfl rfl rfl

theorem ComputedField.readsBack (computed : ComputedField) :
    ReadsBack ofJson? computed.toJson computed :=
  .object rfl rfl rfl

theorem GroupByRule.readsBack (rule : GroupByRule) : ReadsBack ofJson? rule.toJson rule := by
  obtain ⟨field, expression⟩ := rule
  cases expression with
  | none => exact .object rfl rfl rfl
  | some expression => exact .object rfl rfl rfl

section Members

variable {tree first second third : Json}

theorem GroupForm.ofJson?_of_members {form : GroupForm} (record : tree.isRecord keys = true)
    (groupBy : tree.member? 0 "groupBy" = some first)
    (addFields : tree.member? 1 "addFields" = some second)
    (keysRead : Json.list? GroupByRule.ofJson? first = some form.groupBy)
    (computedRead : Json.list? ComputedField.ofJson? second = some form.addFields) :
    ofJson? tree = some form := by
  simp [ofJson?, record, groupBy, addFields, Json.defaulted, keysRead, computedRead, guard]

theorem Filter.Rule.ofJson?_of_members {rule : Filter.Rule} {slot : Option Json}
    (record : tree.isRecord keys = true) (field : tree.member? 0 "field" = some (.string rule.field))
    (operator : tree.member? 1 "operator" = some (.string rule.operator))
    (value : tree.member? 2 "value" = slot)
    (valueRead : Json.optional Json.value? slot = some rule.value) : ofJson? tree = some rule := by
  simp [ofJson?, record, field, operator, value, Json.defaulted, Json.text?, valueRead, guard]

theorem Filter.Group.ofJson?_of_members {emptyToo : Bool} {group : Filter.Group}
    (record : tree.isRecord keys = true) (logic : tree.member? 0 "logic" = some group.logic.toJson)
    (filters : tree.member? 1 "filters" = some second)
    (filtersRead : Json.list? Filter.Node.ofJson? second = some group.filters) :
    ofJson? emptyToo tree = some group := by
  have logicRead : Filter.Logic.ofJson? emptyToo group.logic.toJson = some group.logic := by
    cases group.logic <;> rfl
  simp [ofJson?, parts?, record, logic, filters, Json.defaulted, Json.required, logicRead,
    filtersRead]

theorem Stage.ofJson?_of_members {stage : Stage} (record : tree.isRecord keys = true)
    (type : tree.member? 0 "type" = some stage.kind.toJson)
    (form : tree.member? 1 "form" = some second) (readable : second.readable = true)
    (formRead : formOfJson? (isFormFirst tree) stage.kind second = some stage) :
    ofJson? tree = some stage := by
  have kindRead : Kind.ofJson? stage.kind.toJson = some stage.kind := by
    cases stage.kind <;> rfl
  simp [ofJson?, record, type, form, readable, Json.required, kindRead, formRead, guard]

end Members

theorem GroupForm.readsBack (form : GroupForm) : ReadsBack ofJson? form.toJson form := by
  have keys : ReadsBack (Json.list? GroupByRule.ofJson?)
      (.array (form.groupBy.map GroupByRule.toJson)) form.groupBy :=
    .list fun rule _ => rule.readsBack
  have computed : ReadsBack (Json.list? ComputedField.ofJson?)
      (.array (form.addFields.map ComputedField.toJson)) form.addFields :=
    .list fun computed _ => computed.readsBack
  obtain ⟨keysTree, keysValue, keysStored⟩ := keys.stored
  obtain ⟨computedTree, computedValue, computedStored⟩ := computed.stored
  have each := Json.entryValues?_cons "groupBy" keysValue
    (Json.entryValues?_cons "addFields" computedValue Json.entryValues?_nil)
  exact .object each (ofJson?_of_members rfl rfl rfl keys.written computed.written)
    (ofJson?_of_members rfl rfl rfl keysStored computedStored)

namespace Filter

/-- Whether a rule compares with nothing or with a value, which is not `null`. -/
def Rule.Storable (rule : Rule) : Prop :=
  ∀ value, rule.value = some value → value.IsValue ∧ value ≠ .null

theorem Node.readsBack_of_choose? {tree : Json} {node : Node}
    (back : ReadsBack Node.choose? tree node) : ReadsBack Node.ofJson? tree node := by
  obtain ⟨value, denoted, stored⟩ := back.stored
  have readable : tree.readable = true := by rw [Json.readable, denoted, Option.isSome_some]
  have kept : value.readable = true := (Json.isValue_of_value? tree denoted).readable
  refine ⟨?_, value, denoted, ?_⟩
  · rw [Node.ofJson?_eq readable, back.written]
  · rw [Node.ofJson?_eq kept, stored]

theorem Rule.readsBack (rule : Rule) (storable : rule.Storable) :
    ReadsBack Node.ofJson? rule.toJson (.rule rule) := by
  refine Node.readsBack_of_choose? ?_
  obtain ⟨field, operator, value⟩ := rule
  cases value with
  | none => exact .object rfl rfl rfl
  | some value =>
      obtain ⟨isValue, given⟩ := storable value rfl
      have kept : value.value? = some value := isValue.value?_eq
      have read : Json.optional Json.value? (some value) = some (some value) := by
        cases value with
        | null => exact absurd rfl given
        | _ => simp [Json.optional, kept]
      have each := Json.entryValues?_cons "field" (show (Json.string field).value? = _ from rfl)
        (Json.entryValues?_cons "operator" (show (Json.string operator).value? = _ from rfl)
          (Json.entryValues?_cons "value" kept Json.entryValues?_nil))
      -- No member has the name that would make it a group.
      exact .object each
        (Node.choose?_of_rule rfl rfl rfl (ofJson?_of_members rfl rfl rfl rfl read))
        (Node.choose?_of_rule rfl rfl rfl (ofJson?_of_members rfl rfl rfl rfl read))

theorem Node.allToJson_eq_map (nodes : List Node) :
    Node.allToJson nodes = nodes.map Node.toJson := by
  induction nodes with
  | nil => rfl
  | cons first rest ih => rw [Node.allToJson, ih, List.map_cons]

theorem Group.readsBack (emptyToo : Bool) (group : Group)
    (filters : ∀ node ∈ group.filters, ReadsBack Node.ofJson? node.toJson node) :
    ReadsBack (ofJson? emptyToo) group.toJson group := by
  have parts : ReadsBack (Json.list? Node.ofJson?) (.array (Node.allToJson group.filters))
      group.filters := by
    rw [Node.allToJson_eq_map]
    exact .list filters
  obtain ⟨partsTree, partsValue, partsStored⟩ := parts.stored
  have each := Json.entryValues?_cons "logic" (show group.logic.toJson.value? = _ from rfl)
    (Json.entryValues?_cons "filters" partsValue Json.entryValues?_nil)
  exact .object each (ofJson?_of_members rfl rfl rfl parts.written)
    (ofJson?_of_members rfl rfl rfl partsStored)

mutual

theorem Node.readsBack :
    (node : Node) → (∀ rule, node.Has rule → rule.Storable) → ReadsBack ofJson? node.toJson node
  | .rule r, storable => r.readsBack (storable r .here)
  | .group logic filters, storable => by
      have parts := Node.allReadBack filters fun node member rule has =>
        storable rule (.within member has)
      obtain ⟨written, value, denoted, stored⟩ := Group.readsBack false ⟨logic, filters⟩ parts
      refine Node.readsBack_of_choose? ⟨?_, value, denoted, ?_⟩
      · exact Node.choose?_of_group written
      · exact Node.choose?_of_group stored

theorem Node.allReadBack :
    (nodes : List Node) → (∀ node ∈ nodes, ∀ rule, node.Has rule → rule.Storable) →
      ∀ node ∈ nodes, ReadsBack Node.ofJson? node.toJson node
  | [], _ => nofun
  | first :: rest, storable => by
      have head := Node.readsBack first (storable first List.mem_cons_self)
      have tail := Node.allReadBack rest fun node member =>
        storable node (List.mem_cons_of_mem first member)
      exact List.forall_mem_cons.mpr ⟨head, tail⟩

end

end Filter

namespace Stage

theorem readsBack_of_form {stage : Stage}
    (form : ∀ emptyToo, ReadsBack (formOfJson? emptyToo stage.kind) stage.formToJson stage) :
    ReadsBack ofJson? stage.toJson stage := by
  obtain ⟨value, denoted, stored⟩ := (form true).stored
  have readable : stage.formToJson.readable = true := by
    rw [Json.readable, denoted, Option.isSome_some]
  have kept : value.readable = true := (Json.isValue_of_value? _ denoted).readable
  have each := Json.entryValues?_cons "type" (show stage.kind.toJson.value? = _ from rfl)
    (Json.entryValues?_cons "form" denoted Json.entryValues?_nil)
  -- Sorted by key, the form comes before the type.
  exact .object each (ofJson?_of_members rfl rfl rfl readable (form false).written)
    (ofJson?_of_members rfl rfl rfl kept stored)

/-- Whether all rules of a filter can be written. -/
def Storable : Stage → Prop
  | filter whole => ∀ node ∈ whole.filters, ∀ rule, node.Has rule → rule.Storable
  | _ => True

theorem readsBack (stage : Stage) (storable : stage.Storable) :
    ReadsBack ofJson? stage.toJson stage := by
  refine readsBack_of_form fun emptyToo => ?_
  cases stage with
  | filter whole =>
      have parts := Filter.Node.allReadBack whole.filters storable
      exact (whole.readsBack emptyToo parts).map filter
  | sort field order => cases order <;> exact .object rfl rfl rfl
  | group form => exact form.readsBack.map group
  | addFields entries =>
      have each : ReadsBack (Json.list? ComputedField.ofJson?)
          (.array (entries.map ComputedField.toJson)) entries :=
        .list fun computed _ => computed.readsBack
      exact each.map addFields
  | unwind field => exact .object rfl rfl rfl
  | custom raw => exact .object rfl rfl rfl

end Stage

theorem Mapping.readsBack (mapping : Mapping) : ReadsBack ofJson? mapping.toJson mapping := by
  obtain ⟨category, field, series⟩ := mapping
  cases series with
  | none => exact .object rfl rfl rfl
  | some series => exact .object rfl rfl rfl

namespace AggregationSpec

def Storable (spec : AggregationSpec) : Prop := ∀ stage ∈ spec.pipeline, stage.Storable

theorem ofJson?_of_members {tree first second third : Json} {slot : Option Json}
    {spec : AggregationSpec} (record : tree.isRecord keys = true)
    (id : tree.member? 0 "id" = slot) (idRead : Json.optional Json.text? slot = some spec.id)
    (dataSourceId : tree.member? 1 "dataSourceId" = some (.string spec.dataSourceId))
    (sourceFields : tree.member? 2 "sourceFields" = some first)
    (pipeline : tree.member? 3 "pipeline" = some second)
    (mapping : tree.member? 4 "mapping" = some third)
    (fieldsRead : Json.list? Json.text? first = some spec.sourceFields)
    (stagesRead : Stage.listOfJson? second = some spec.pipeline)
    (mappingRead : Mapping.ofJson? third = some spec.mapping) : ofJson? tree = some spec := by
  simp [ofJson?, record, id, idRead, dataSourceId, sourceFields, pipeline, mapping,
    Json.required, Json.defaulted, Json.text?, fieldsRead, stagesRead, mappingRead, guard]

theorem readsBack (spec : AggregationSpec) (storable : spec.Storable) :
    ReadsBack ofJson? spec.toJson spec := by
  have fields : ReadsBack (Json.list? Json.text?) (Json.strings spec.sourceFields)
      spec.sourceFields := .list fun _ _ => ⟨rfl, _, rfl, rfl⟩
  have stages : ReadsBack Stage.listOfJson? (Stage.listToJson spec.pipeline) spec.pipeline :=
    .list fun stage member => stage.readsBack (storable stage member)
  obtain ⟨fieldsTree, fieldsValue, fieldsStored⟩ := fields.stored
  obtain ⟨stagesTree, stagesValue, stagesStored⟩ := stages.stored
  obtain ⟨mappingTree, mappingValue, mappingStored⟩ := spec.mapping.readsBack.stored
  have each := Json.entryValues?_cons "dataSourceId"
    (show (Json.string spec.dataSourceId).value? = _ from rfl)
    (Json.entryValues?_cons "sourceFields" fieldsValue
      (Json.entryValues?_cons "pipeline" stagesValue
        (Json.entryValues?_cons "mapping" mappingValue Json.entryValues?_nil)))
  obtain ⟨id, dataSourceId, sourceFields, pipeline, mapping⟩ := spec
  cases id with
  | none =>
      exact .object each
        (ofJson?_of_members rfl rfl rfl rfl rfl rfl rfl fields.written stages.written
          mapping.readsBack.written)
        (ofJson?_of_members rfl rfl rfl rfl rfl rfl rfl fieldsStored stagesStored mappingStored)
  | some id =>
      have each := Json.entryValues?_cons "id" (show (Json.string id).value? = _ from rfl) each
      exact .object each
        (ofJson?_of_members rfl rfl rfl rfl rfl rfl rfl fields.written stages.written
          mapping.readsBack.written)
        (ofJson?_of_members rfl rfl rfl rfl rfl rfl rfl fieldsStored stagesStored mappingStored)

end AggregationSpec

variable {tree : Json}

theorem isValue_of_optional {slot : Option Json} {value : Json}
    (read : Json.optional Json.value? slot = some (some value)) : value.IsValue ∧ value ≠ .null := by
  cases slot with
  | none => simp [Json.optional] at read
  | some tree =>
      have denoted : tree ≠ .null ∧ tree.value? = some value := by
        cases tree <;> simp_all [Json.optional]
      refine ⟨Json.isValue_of_value? tree denoted.2, ?_⟩
      rintro rfl
      obtain ⟨given, denoted⟩ := denoted
      cases tree <;> simp_all [Json.value?]

theorem Filter.Rule.storable_of_ofJson? {rule : Filter.Rule} (read : ofJson? tree = some rule) :
    rule.Storable := by
  obtain ⟨-, -, read⟩ := Option.bind_eq_some_iff.mp read
  obtain ⟨field, -, read⟩ := Option.bind_eq_some_iff.mp read
  obtain ⟨operator, -, read⟩ := Option.bind_eq_some_iff.mp read
  obtain ⟨value, compared, same⟩ := Option.bind_eq_some_iff.mp read
  cases same
  rintro value rfl
  exact isValue_of_optional compared

theorem Filter.Node.storable_of_ofJson? {node : Filter.Node} {rule : Filter.Rule}
    (read : ofJson? tree = some node) (has : node.Has rule) : rule.Storable := by
  induction has generalizing tree with
  | here =>
      obtain ⟨group, -, same⟩ | ⟨rule, -, asRule, same⟩ := Node.ofJson?_cases read
      · contradiction
      · cases same
        exact Rule.storable_of_ofJson? asRule
  | within member _ ih =>
      obtain ⟨group, asGroup, same⟩ | ⟨rule, -, -, same⟩ := Node.ofJson?_cases read
      · cases same
        obtain ⟨-, items, -, each⟩ := Group.ofJson?_eq_some asGroup
        obtain ⟨item, -, part⟩ := Json.exists_of_mem_mapM each member
        exact ih part
      · contradiction

theorem Stage.storable_of_ofJson? {stage : Stage} (read : ofJson? tree = some stage) :
    stage.Storable := by
  cases stage with
  | filter whole =>
      obtain ⟨form, items, -, -, each⟩ := filter_of_ofJson? read
      intro node member rule has
      obtain ⟨item, -, part⟩ := Json.exists_of_mem_mapM each member
      exact Filter.Node.storable_of_ofJson? part has
  | _ => trivial

theorem AggregationSpec.storable_of_ofJson? {spec : AggregationSpec}
    (read : ofJson? tree = some spec) : spec.Storable := by
  obtain ⟨-, -, read⟩ := Option.bind_eq_some_iff.mp read
  obtain ⟨id, -, read⟩ := Option.bind_eq_some_iff.mp read
  obtain ⟨dataSourceId, -, read⟩ := Option.bind_eq_some_iff.mp read
  obtain ⟨sourceFields, -, read⟩ := Option.bind_eq_some_iff.mp read
  obtain ⟨pipeline, stages, read⟩ := Option.bind_eq_some_iff.mp read
  obtain ⟨mapping, -, same⟩ := Option.bind_eq_some_iff.mp read
  cases same
  intro stage member
  cases slot : tree.member? 3 "pipeline" with
  | none =>
      rw [slot] at stages
      cases stages
      contradiction
  | some list =>
      rw [slot] at stages
      obtain ⟨items, -, each⟩ := Json.list?_eq_some_iff.mp stages
      obtain ⟨item, -, read⟩ := Json.exists_of_mem_mapM each member
      exact Stage.storable_of_ofJson? read

/-- A spec is read back from what is written of it just if its rules compare with values
that are not `null`, and all specs that are read are of that kind. -/
theorem reads_back_iff_storable :
    (∀ spec : AggregationSpec,
      ReadsBack AggregationSpec.ofJson? spec.toJson spec ↔ spec.Storable) ∧
    ∀ tree spec, AggregationSpec.ofJson? tree = some spec →
      spec.Storable ∧ ReadsBack AggregationSpec.ofJson? spec.toJson spec := by
  refine ⟨fun spec => ⟨fun back => ?_, spec.readsBack⟩, fun tree spec read => ?_⟩
  · exact AggregationSpec.storable_of_ofJson? back.written
  · have storable := AggregationSpec.storable_of_ofJson? read
    exact ⟨storable, spec.readsBack storable⟩

/-- A spec written in its shortest forms: arrays for records, members left out or `null`. -/
def terse : Json :=
  .array [.null, .string "incidents", .array [],
    .array [.array [.string "filter", .object [("filters", .array
      [.array [.string "severity", .string "eq", .object [("to", .bool true), ("at", .null)]],
        .object [("filters", .array [.object [("value", .null), ("note", .null)]])]])]]]]

theorem terse_reads_back :
    ∃ spec, AggregationSpec.ofJson? terse = some spec ∧ spec.Storable ∧
      ReadsBack AggregationSpec.ofJson? spec.toJson spec := by
  let compared : Json := .object [("at", .null), ("to", .bool true)]
  let spec : AggregationSpec :=
    { dataSourceId := "incidents"
      pipeline := [.filter { filters :=
        [.rule ⟨"severity", "eq", some compared⟩, .group .and [.rule {}]] }] }
  have read : AggregationSpec.ofJson? terse = some spec := by cbv
  obtain ⟨-, faithful⟩ := reads_back_iff_storable
  exact ⟨spec, read, faithful terse spec read⟩

end Aggregation
