import Aggregation.Proofs.Catalog.Built
import Aggregation.Proofs.Propagation.SortChecks
import Aggregation.Proofs.Propagation.Uncomputed

namespace Aggregation

/-! Scalars that are records.

A list without sub-fields is unwound to a scalar of its type, which is right for a list of
scalars.  But a list of records that lost all its sub-fields to expansion, or whose type
has none, looks just like that.  Unwinding one is the only way in which selected fields
come to have a scalar whose type has fields of its own.
-/

/-- Whether lists and non-null types have a type within them and no name, and all others a
name and nothing within. -/
inductive TypeRef.WellFormed : TypeRef → Prop where
  | named {kind : TypeKind} {name : String} :
      kind ≠ .list → kind ≠ .nonNull → WellFormed ⟨kind, some name, none⟩
  | wrapper {kind : TypeKind} {inner : TypeRef} :
      kind = .list ∨ kind = .nonNull → WellFormed inner → WellFormed ⟨kind, none, some inner⟩

theorem TypeRef.WellFormed.name_innermost {ref : TypeRef} (wellFormed : ref.WellFormed) :
    ref.innermost.name = ref.namedType? := by
  induction wellFormed with
  | named => rfl
  | wrapper _ _ ih => exact ih

namespace Catalog

/-- The names in a catalog with the kinds that they are used with. -/
def uses (catalog : Catalog) : List (String × TypeKind) :=
  catalog.types.flatMap fun type =>
    (type.name, type.kind) :: (type.fields.getD []).filterMap fun field =>
      field.typeRef.innermost.name.map (·, field.typeRef.innermost.kind)

structure WellTyped (catalog : Catalog) : Prop where
  refs : ∀ type ∈ catalog.types, ∀ field ∈ type.fields.getD [], field.typeRef.WellFormed
  kinds : ∀ use ∈ catalog.uses, ∀ other ∈ catalog.uses, use.1 = other.1 → use.2 = other.2

/-- Whether a name is that of a type with fields of its own. -/
def IsRecordType (catalog : Catalog) (name : String) : Prop :=
  ∃ type ∈ catalog.types, type.name = name ∧ type.kind.isComposite = true

structure RecordScalar (catalog : Catalog) (field : Field) : Prop where
  scalar : field.kind = .scalar
  typed : catalog.IsRecordType field.typeName

/-- Whether a field is a list of records that has no sub-fields. -/
structure Emptied (catalog : Catalog) (field : Field) : Prop where
  list : field.kind = .list
  typed : catalog.IsRecordType field.typeName
  bare : field.children = []

variable {catalog : Catalog} {type : MetaType} {field : MetaField} {name : String}
  {fields : List Field}

theorem not_isRecordType_of_leaf (typed : catalog.WellTyped) (member : type ∈ catalog.types)
    (declared : field ∈ type.fields.getD []) (named : field.typeRef.namedType? = some name)
    (leaf : field.typeRef.isComposite = false) : ¬ catalog.IsRecordType name := by
  rintro ⟨other, inside, rfl, composite⟩
  have declares : (other.name, other.kind) ∈ catalog.uses :=
    List.mem_flatMap.mpr ⟨other, inside, List.mem_cons_self⟩
  have refers : (other.name, field.typeRef.innermost.kind) ∈ catalog.uses := by
    refine List.mem_flatMap.mpr ⟨type, member, List.mem_cons_of_mem _ ?_⟩
    refine List.mem_filterMap.mpr ⟨field, declared, ?_⟩
    rw [(typed.refs type member field declared).name_innermost, named, Option.map_some]
  have same : other.kind = field.typeRef.innermost.kind := typed.kinds _ declares _ refers rfl
  rw [TypeRef.isComposite, ← same, composite] at leaf
  contradiction

theorem deep_leaf (typed : catalog.WellTyped) (member : type ∈ catalog.types)
    (declared : field ∈ type.fields.getD []) (named : field.typeRef.namedType? = some name)
    (leaf : field.typeRef.isComposite = false) :
    (field.leaf name).Deep (¬ catalog.RecordScalar ·) := by
  have other := not_isRecordType_of_leaf typed member declared named leaf
  unfold MetaField.leaf
  split
  · refine .intro (fun record => ?_) nofun
    cases record.scalar
  · exact .makeScalar fun record => other record.typed

theorem deep_composite (below : ∀ child ∈ fields, child.Deep (¬ catalog.RecordScalar ·)) :
    (field.composite name fields).Deep (¬ catalog.RecordScalar ·) := by
  unfold MetaField.composite
  split
  all_goals
    refine .intro (fun record => ?_) below
    cases record.scalar

/-- Whether a field belongs to a type of the catalog. -/
def Declares (catalog : Catalog) (field : MetaField) : Prop :=
  ∃ type ∈ catalog.types, field ∈ type.fields.getD []

/-- Expansion makes no scalar of a record. -/
theorem builds_deep (typed : catalog.WellTyped) :
    Builds catalog.Declares (·.Deep (¬ catalog.RecordScalar ·)) where
  leaf source name origin named leaf := by
    obtain ⟨type, member, declared⟩ := origin
    exact deep_leaf typed member declared named leaf
  composite source name fields _ below := deep_composite below

theorem deep_sourceFields {resource : Resource} {names : List String} (typed : catalog.WellTyped)
    (chosen : resource.sourceFields catalog names = .ok fields) :
    ∀ kept ∈ fields, kept.Deep (¬ catalog.RecordScalar ·) :=
  (builds_deep typed).sourceFields (fun type member _ inside => ⟨type, member, inside⟩) chosen

end Catalog

section Runs

variable {catalog : Catalog} {fields : List Field} {pipeline : List Stage} {index : Nat}
  {name : String} {target : Field}

theorem recordScalar_mem_of_emptied (there : pipeline[index]? = some (.unwind name))
    (found : Field.find? (fieldsAfter fields (pipeline.take index)) name = some target)
    (flawless : target.flaw? = none) (emptied : catalog.Emptied target) :
    ∃ field ∈ fieldsAfter fields (pipeline.take (index + 1)), catalog.RecordScalar field := by
  rw [fieldsAfter_take_succ fields there]
  exact ⟨_, Stage.element_mem_output found emptied.list flawless emptied.bare, rfl, emptied.typed⟩

/-- Where no record is a scalar, none can be sorted by. -/
theorem not_isRecordType_of_checkSortField
    (unscalared : ∀ field ∈ fieldsAfter fields pipeline, ¬ catalog.RecordScalar field)
    (passed : AggregationRequest.checkSortField (fieldsAfter fields pipeline) name = .ok ()) :
    ∃ field ∈ fieldsAfter fields pipeline,
      field.name = name ∧ ¬ catalog.IsRecordType field.typeName := by
  have distinct := nodup_names_fieldsAfter fields pipeline
  obtain ⟨field, listed, named⟩ := (AggregationRequest.checkSortField_eq_ok_iff distinct).mp passed
  obtain ⟨member, scalar⟩ := List.mem_filter.mp listed
  exact ⟨field, member, named, fun record => unscalared field member ⟨eq_of_beq scalar, record⟩⟩

variable (uncomputed : ∀ stage ∈ pipeline, stage.Uncomputed)

include uncomputed

theorem not_recordScalar_of_unemptied (deep : ∀ field ∈ fields, field.Deep (¬ catalog.RecordScalar ·))
    (unemptied : ∀ index name target, pipeline[index]? = some (.unwind name) →
      Field.find? (fieldsAfter fields (pipeline.take index)) name = some target →
        target.flaw? = none → ¬ catalog.Emptied target)
    (index : Nat) :
    ∀ field ∈ fieldsAfter fields (pipeline.take index), ¬ catalog.RecordScalar field := by
  intro field member
  refine (deep_fieldsAfter uncomputed ?_ ?_ deep index field member).here
  · intro field name other record
    exact other ⟨record.scalar, record.typed⟩
  · intro index name target there found list flawless bare record
    exact unemptied index name target there found flawless ⟨list, record.typed, bare⟩

theorem not_emptied_of_deep (filled : ∀ field ∈ fields, field.Deep (¬ catalog.Emptied ·))
    (index : Nat) :
    ∀ field ∈ fieldsAfter fields (pipeline.take index), ¬ catalog.Emptied field := by
  intro field member
  refine (deep_fieldsAfter uncomputed ?_ ?_ filled index field member).here
  · intro field name other emptied
    exact other ⟨emptied.list, emptied.typed, emptied.bare⟩
  · intro index name target _ _ _ _ _ emptied
    cases emptied.list

theorem checkSortField_of_unreported {order : SortOrder}
    (there : pipeline[index]? = some (.sort name order)) (named : name ≠ "")
    (unreported : ∀ issue, ⟨index, issue⟩ ∉ (propagate fields pipeline).diagnostics) :
    AggregationRequest.checkSortField (fieldsAfter fields (pipeline.take index)) name =
      .ok () := by
  have checked : (propagate fields (pipeline.take index)).unchecked = false :=
    unchecked_propagate_eq_false fun stage member =>
      (uncomputed stage (List.mem_of_mem_take member)).checked
  have silent : (propagate fields (pipeline.take index)).issues (.sort name order) = [] :=
    List.eq_nil_iff_forall_not_mem.mpr fun issue member =>
      unreported issue (mem_diagnostics_iff.mpr ⟨_, there, member⟩)
  rw [Propagation.issues_sort order checked named] at silent
  split at silent
  · assumption
  · contradiction

end Runs

/-- Over fields that were selected, stages that compute nothing leave no record as a scalar
just if none of them unwinds a list of records without sub-fields, as when all lists of
records have kept some.  Then nothing that is accepted sorts by a record. -/
theorem record_scalars_iff (catalog : Catalog) (resource : Resource) (names : List String)
    (fields : List Field) (pipeline : List Stage) (typed : catalog.WellTyped)
    (chosen : resource.sourceFields catalog names = .ok fields)
    (uncomputed : ∀ stage ∈ pipeline, stage.Uncomputed) :
    let before (index : Nat) := fieldsAfter fields (pipeline.take index)
    let unscalared := ∀ index, ∀ field ∈ before index, ¬ catalog.RecordScalar field
    (unscalared ↔ ∀ index name target, pipeline[index]? = some (.unwind name) →
      Field.find? (before index) name = some target → target.flaw? = none →
        ¬ catalog.Emptied target) ∧
    ((∀ field ∈ fields, field.Deep (¬ catalog.Emptied ·)) → unscalared) ∧
    (unscalared →
      (∀ index name order, pipeline[index]? = some (.sort name order) → name ≠ "" →
        (∀ issue, ⟨index, issue⟩ ∉ (propagate fields pipeline).diagnostics) →
          ∃ field ∈ before index, field.name = name ∧ ¬ catalog.IsRecordType field.typeName) ∧
      ∀ name, AggregationRequest.checkSortField (fieldsAfter fields pipeline) name = .ok () →
        ∃ field ∈ fieldsAfter fields pipeline,
          field.name = name ∧ ¬ catalog.IsRecordType field.typeName) := by
  intro before unscalared
  have deep := Catalog.deep_sourceFields typed chosen
  have exact : unscalared ↔ ∀ index name target, pipeline[index]? = some (.unwind name) →
      Field.find? (before index) name = some target → target.flaw? = none →
        ¬ catalog.Emptied target := by
    constructor
    · intro unscalared index name target there found flawless emptied
      obtain ⟨field, member, record⟩ := recordScalar_mem_of_emptied there found flawless emptied
      exact unscalared (index + 1) field member record
    · exact fun unemptied index => not_recordScalar_of_unemptied uncomputed deep unemptied index
  refine ⟨exact, fun filled => exact.mpr ?_, fun unscalared => ⟨?_, ?_⟩⟩
  · intro index name target _ found _
    exact not_emptied_of_deep uncomputed filled index target (Field.mem_of_find? found)
  · intro index name order there named unreported
    have passed := checkSortField_of_unreported uncomputed there named unreported
    exact not_isRecordType_of_checkSortField (unscalared index) passed
  · intro name passed
    have last := unscalared pipeline.length
    change ∀ field ∈ fieldsAfter fields (pipeline.take pipeline.length), _ at last
    rw [List.take_length] at last
    exact not_isRecordType_of_checkSortField last passed

namespace Catalog

/-- Incidents with tags, and with links that have nothing but the incident they are of. -/
def incidents : Catalog where
  queryType := "Query"
  types :=
    [⟨"Query", .object, some [⟨"allIncidents", ⟨.list, none, some (recordRef "Incident")⟩⟩]⟩,
      ⟨"Incident", .object, some [⟨"title", textRef⟩,
        ⟨"tags", ⟨.list, none, some (recordRef "Tag")⟩⟩,
        ⟨"links", ⟨.list, none, some (recordRef "Link")⟩⟩]⟩,
      ⟨"Tag", .object, some [⟨"label", textRef⟩]⟩,
      ⟨"Link", .object, some [⟨"incident", recordRef "Incident"⟩]⟩]
  maxDepth := 8

theorem incidents_wellTyped : incidents.WellTyped where
  refs := by
    have record (name : String) : (recordRef name).WellFormed := .named nofun nofun
    have text : textRef.WellFormed := .named nofun nofun
    have list (name : String) : TypeRef.WellFormed ⟨.list, none, some (recordRef name)⟩ :=
      .wrapper (.inl rfl) (record name)
    simp [incidents, record, text, list]
  kinds := by decide

end Catalog

def incidentResource : Resource := ⟨"r1", "Incident", some "allIncidents"⟩

/-- Unwinds a list, then sorts by a field. -/
def unwindThenSort (list field : String) : List Stage := [.unwind list, .sort field .asc]

theorem unwindThenSort_uncomputed (list field : String) :
    ∀ stage ∈ unwindThenSort list field, stage.Uncomputed := by
  intro stage member
  simp only [unwindThenSort, List.mem_cons, List.not_mem_nil, or_false] at member
  rcases member with rfl | rfl
  · exact .unwind
  · exact .sort

theorem incidents_label_sorted :
    let fields : List Field := [.makeList "tags" "Tag" [.makeScalar "label" "String"]]
    incidentResource.sourceFields Catalog.incidents ["tags"] = .ok fields ∧
      AggregationRequest.checkSortField (fieldsAfter fields (unwindThenSort "tags" "label"))
        "label" = .ok () ∧
      ∃ field ∈ fieldsAfter fields (unwindThenSort "tags" "label"),
        field.name = "label" ∧ ¬ Catalog.incidents.IsRecordType field.typeName := by
  intro fields
  have chosen : incidentResource.sourceFields Catalog.incidents ["tags"] = .ok fields := rfl
  have filled : ∀ field ∈ fields, field.Deep (¬ Catalog.incidents.Emptied ·) := by
    intro field member
    obtain rfl := List.mem_singleton.mp member
    refine .intro (fun emptied => ?_) fun child inside => ?_
    · cases emptied.bare
    · obtain rfl := List.mem_singleton.mp inside
      exact .makeScalar fun emptied => nomatch emptied.list
  have passed : AggregationRequest.checkSortField
      (fieldsAfter fields (unwindThenSort "tags" "label")) "label" = .ok () := rfl
  obtain ⟨-, sufficient, sorts⟩ := record_scalars_iff Catalog.incidents incidentResource ["tags"]
    fields (unwindThenSort "tags" "label") Catalog.incidents_wellTyped chosen
    (unwindThenSort_uncomputed "tags" "label")
  exact ⟨chosen, passed, (sorts (sufficient filled)).2 "label" passed⟩

/-- The links lose their incident, whose type was visited, so that one of them can be sorted
by. -/
theorem incidents_links_scalar :
    let fields : List Field := [.makeList "links" "Link" []]
    let pipeline := unwindThenSort "links" "links"
    Catalog.incidents.WellTyped ∧
      incidentResource.sourceFields Catalog.incidents ["links"] = .ok fields ∧
      (∀ stage ∈ pipeline, stage.Uncomputed) ∧
      fieldsAfter fields pipeline = [.makeScalar "links" "Link"] ∧
      Catalog.incidents.RecordScalar (.makeScalar "links" "Link") ∧
      (propagate fields pipeline).diagnostics = [] ∧
      AggregationRequest.checkSortField (fieldsAfter fields pipeline) "links" = .ok () := by
  intro fields pipeline
  have typed : Catalog.incidents.IsRecordType "Link" := by
    refine ⟨⟨"Link", .object, some [⟨"incident", Catalog.recordRef "Incident"⟩]⟩, ?_, rfl, rfl⟩
    simp [Catalog.incidents]
  exact ⟨Catalog.incidents_wellTyped, rfl, unwindThenSort_uncomputed "links" "links", by decide,
    ⟨rfl, typed⟩, by decide, rfl⟩

end Aggregation
