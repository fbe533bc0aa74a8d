import Aggregation.Proofs.Catalog.Built
import Aggregation.Proofs.Editor.Freshness
import Aggregation.Proofs.Propagation.Unflawed

namespace Aggregation

/-! Fields of a catalog are well formed.

Whether a field is expanded is told by the innermost type of its reference, and whether it is
a list by the outermost.  References on which the two disagree are read all the same, and
whatever they say, just objects and lists are given sub-fields.  So only names can be bad.
-/

namespace Catalog

/-- Whether all fields of types have a name that is not blank. -/
def NamesFields (catalog : Catalog) : Prop :=
  ∀ type ∈ catalog.types, ∀ field ∈ type.fields.getD [], Text.isBlankText field.name = false

theorem builds_wellFormed :
    Builds (fun source => Text.isBlankText source.name = false) Field.WellFormed where
  leaf source name named _ _ := by
    unfold MetaField.leaf
    split
    · exact .nested named (by decide) fun _ inside => absurd inside List.not_mem_nil
    · exact .scalar named
  composite source name fields named below := by
    unfold MetaField.composite
    split
    · exact .nested named (by decide) below
    · exact .nested named (by decide) below

/-- The fields that a catalog is asked for: records, the fields of a type, a field by itself,
and what a user selects. -/
inductive Returns (catalog : Catalog) : Field → Prop where
  | record {query : String} {fields : List Field} {field : Field} :
      catalog.getFields query = .ok fields → field ∈ fields → Returns catalog field
  | deconfined {ref : TypeRef} {visited : List String} {fields : List Field} {field : Field} :
      catalog.deconfineFields ref visited = .ok fields → field ∈ fields → Returns catalog field
  | seeded {source : MetaField} {visited : List String} {field : Field} :
      Text.isBlankText source.name = false →
      catalog.seededField source visited = .ok field → Returns catalog field
  | selected {resource : Resource} {names : List String} {fields : List Field} {field : Field} :
      resource.sourceFields catalog names = .ok fields → field ∈ fields → Returns catalog field

theorem Returns.wellFormed {catalog : Catalog} {field : Field} (named : catalog.NamesFields)
    (returned : catalog.Returns field) : field.WellFormed := by
  cases returned with
  | record expanded member => exact builds_wellFormed.getFields named expanded _ member
  | deconfined expanded member => exact builds_wellFormed.deconfineFields named expanded _ member
  | seeded origin seeded => exact builds_wellFormed.seededField named origin seeded
  | selected chosen member => exact builds_wellFormed.sourceFields named chosen _ member

end Catalog

theorem AggregationSpec.schema_not_mem_formDiagnostics {pipeline : List Stage} {index : Nat}
    {flaw : SchemaError} : ⟨index, .schema flaw⟩ ∉ formDiagnostics pipeline := by
  simp [formDiagnostics]

/-- Whatever its references look like, all that a catalog with named fields returns passes the
check of fields.  An editor over such fields finds no flaw in them, and no stage of any
pipeline comes upon a malformed field. -/
theorem returned_fields_wellFormed (catalog : Catalog) (fields : List Field)
    (named : catalog.NamesFields) (returned : ∀ field ∈ fields, catalog.Returns field) :
    (∀ field ∈ fields, field.validate = .ok ()) ∧
    ∀ pipeline, (Editor.new fields pipeline).fieldIssues = [] ∧
      ∀ index name reason,
        ⟨index, .schema (.malformedField name reason)⟩ ∉
            (Editor.new fields pipeline).diagnostics ∧
          ⟨index, .schema (.malformedField name reason)⟩ ∉
            (propagate fields pipeline).diagnostics := by
  have wellFormed : ∀ field ∈ fields, field.WellFormed := fun field member =>
    (returned field member).wellFormed named
  refine ⟨fun field member => (Field.validate_eq_ok_iff field).mpr (wellFormed field member),
    fun pipeline => ⟨?_, fun index name reason => ?_⟩⟩
  · refine List.filterMap_eq_nil_iff.mpr fun field member => ?_
    rw [List.append_nil] at member
    exact Field.flaw?_eq_none_iff.mpr (wellFormed field member)
  · have unreported := malformed_unreported wellFormed pipeline index name reason
    refine ⟨fun shown => ?_, unreported⟩
    rcases Editor.mem_diagnostics_rebuild.mp shown with formed | reported
    · exact AggregationSpec.schema_not_mem_formDiagnostics formed
    · exact unreported reported

namespace Catalog

/-- Parts whose references name wrappers, lack what is wrapped, or wrap what cannot be. -/
def crooked : Catalog where
  queryType := "Query"
  types :=
    [⟨"Query", .object, some [⟨"allParts", ⟨.list, none, some (recordRef "Part")⟩⟩]⟩,
      ⟨"Part", .object, some [⟨"tags", ⟨.list, some "Tag", none⟩⟩,
        ⟨"owner", ⟨.object, some "User", some textRef⟩⟩,
        ⟨"inner", ⟨.scalar, some "Piece", some (recordRef "Part")⟩⟩,
        ⟨"rows", ⟨.nonNull, none, some ⟨.list, none, some ⟨.list, none, some (recordRef "Piece")⟩⟩⟩⟩,
        ⟨"odd", ⟨.nonNull, some "Odd", none⟩⟩]⟩,
      ⟨"Piece", .object, some [⟨"label", textRef⟩]⟩]
  maxDepth := 8

def crookedFields : List Field :=
  [.makeList "tags" "Tag" [], .makeScalar "owner" "User",
    .makeObject "inner" "Piece" [.makeScalar "label" "String"],
    .makeList "rows" "Piece" [.makeScalar "label" "String"], .makeScalar "odd" "Odd"]

theorem crooked_fields_wellFormed :
    let pipeline : List Stage := [.addFields [⟨" ", ⟨"count", ""⟩⟩], .custom "{}", .unwind " ",
      .group { groupBy := [{ field := "rows" }, { field := "lost" }] }, .unwind "rows"]
    crooked.NamesFields ∧ crooked.getFields "allParts" = .ok crookedFields ∧
      (∀ field ∈ crookedFields, field.validate = .ok ()) ∧
      (Editor.new crookedFields pipeline).fieldIssues = [] ∧
      ∀ index name reason, ⟨index, .schema (.malformedField name reason)⟩ ∉
        (propagate crookedFields pipeline).diagnostics := by
  intro pipeline
  have named : crooked.NamesFields := by
    unfold NamesFields
    decide
  have expanded : crooked.getFields "allParts" = .ok crookedFields := rfl
  obtain ⟨valid, sound⟩ := returned_fields_wellFormed crooked crookedFields named
    fun field member => .record expanded member
  obtain ⟨flawless, unreported⟩ := sound pipeline
  exact ⟨named, expanded, valid, flawless, fun index name reason =>
    (unreported index name reason).2⟩

end Catalog

end Aggregation
