import Aggregation.Resource
import Aggregation.Proofs.Catalog.Selection

namespace Aggregation.Catalog

/-! What all expanded fields have in common.

Every field that expansion leaves is made in one of two ways: it stands for a field of a type
without fields, or it is put together from fields that are expanded already.  So what holds
of the first and passes on to the second holds of all fields that come from a catalog.
-/

/-- Whether something holds of all that is made of some fields of types, if it holds of the
fields below. -/
structure Builds (Source : MetaField → Prop) (Holds : Field → Prop) : Prop where
  leaf : ∀ source name, Source source → source.typeRef.namedType? = some name →
    source.typeRef.isComposite = false → Holds (source.leaf name)
  composite : ∀ source name fields, Source source → (∀ field ∈ fields, Holds field) →
    Holds (source.composite name fields)

variable {catalog : Catalog} {Source : MetaField → Prop} {Holds : Field → Prop}
  {source : MetaField} {available : List MetaField} {visited : List String}
  {fields : List Field} {kept : Field} {query typeName : String}

theorem mem_types_of_typeFields (known : catalog.typeFields typeName = .ok available) :
    ∃ type ∈ catalog.types, available = type.fields.getD [] := by
  unfold typeFields at known
  split at known
  · next type found =>
    cases known
    exact ⟨type, (List.mem_filter.mp (List.mem_of_getLast? found)).1, rfl⟩
  · contradiction

theorem exists_of_mem_expandEach {expandOne : MetaField → Except SchemaError (Option Field)}
    (expanded : expandEach expandOne available = .ok fields) (member : kept ∈ fields) :
    ∃ source ∈ available, expandOne source = .ok (some kept) := by
  induction available generalizing fields with
  | nil =>
      cases expanded
      contradiction
  | cons field rest ih =>
      obtain ⟨first, others, one, later, rfl⟩ := expandEach_cons_eq_ok expanded
      rcases List.mem_append.mp member with here | further
      · rw [Option.mem_toList.mp here] at one
        exact ⟨field, List.mem_cons_self, one⟩
      · obtain ⟨source, inside, one⟩ := ih later further
        exact ⟨source, List.mem_cons_of_mem field inside, one⟩

namespace Builds

variable (builds : Builds Source Holds)
  (declared : ∀ type ∈ catalog.types, ∀ source ∈ type.fields.getD [], Source source)

include builds declared

theorem expandType (levels : Nat)
    (expanded : catalog.expandType typeName visited levels = .ok fields) :
    ∀ field ∈ fields, Holds field := by
  induction levels using Nat.strongRecOn generalizing typeName visited fields with
  | ind levels ih =>
      intro kept member
      rw [expandType_eq] at expanded
      obtain ⟨available, known, expanded⟩ := exists_of_bind_eq_ok expanded
      obtain ⟨type, inside, rfl⟩ := mem_types_of_typeFields known
      obtain ⟨source, there, one⟩ := exists_of_mem_expandEach expanded member
      have origin := declared type inside source there
      obtain ⟨name, named, leaf | leftOut | nested⟩ := expandField_cases one
      · obtain ⟨leaf, same⟩ := leaf
        cases same
        exact builds.leaf source name origin (namedTypeFor_eq_ok_iff.mp named) leaf
      · obtain ⟨-, -, absent⟩ := leftOut
        contradiction
      · obtain ⟨-, -, fewer, below, rfl, inner, same⟩ := nested
        cases same
        exact builds.composite source name below origin (ih fewer (Nat.lt_succ_self fewer) inner)

theorem getFields (expanded : catalog.getFields query = .ok fields) :
    ∀ field ∈ fields, Holds field := by
  obtain ⟨recordType, -, expanded⟩ := exists_of_bind_eq_ok expanded
  exact builds.expandType declared _ expanded

theorem deconfineFields {ref : TypeRef}
    (expanded : catalog.deconfineFields ref visited = .ok fields) :
    ∀ field ∈ fields, Holds field := by
  obtain ⟨typeName, -, expanded⟩ := exists_of_bind_eq_ok expanded
  exact builds.expandType declared _ expanded

/-- A field that is expanded by itself need not be one of the catalog's. -/
theorem seededField (origin : Source source)
    (seeded : catalog.seededField source visited = .ok kept) : Holds kept := by
  cases named : source.typeRef.namedTypeFor source.name with
  | error error =>
      rw [Catalog.seededField, named] at seeded
      contradiction
  | ok name =>
      cases composite : source.typeRef.isComposite with
      | false =>
          rw [seededField_of_leaf named composite] at seeded
          cases seeded
          exact builds.leaf source name origin (namedTypeFor_eq_ok_iff.mp named) composite
      | true =>
          rw [seededField_of_composite named composite] at seeded
          obtain ⟨below, inner, rfl⟩ := exists_of_map_eq_ok seeded
          exact builds.composite source name below origin (builds.expandType declared _ inner)

theorem selectFields {resource : Resource} {names : List String}
    (origin : ∀ source ∈ available, Source source)
    (chosen : resource.selectFields catalog available names = .ok fields) :
    ∀ field ∈ fields, Holds field := by
  intro kept member
  induction names generalizing fields with
  | nil =>
      cases chosen
      contradiction
  | cons name rest ih =>
      rw [Resource.selectFields] at chosen
      split at chosen
      · exact ih chosen member
      · next selected found =>
        obtain ⟨first, seeded, chosen⟩ := exists_of_bind_eq_ok chosen
        obtain ⟨others, later, same⟩ := exists_of_bind_eq_ok chosen
        cases same
        rcases List.mem_cons.mp member with rfl | further
        · exact builds.seededField declared (origin _ (List.mem_of_find?_eq_some found)) seeded
        · exact ih later further

theorem sourceFields {resource : Resource} {names : List String}
    (chosen : resource.sourceFields catalog names = .ok fields) :
    ∀ field ∈ fields, Holds field := by
  obtain ⟨⟨recordType, available⟩, served, chosen⟩ := exists_of_bind_eq_ok chosen
  obtain ⟨type, inside, rfl⟩ := mem_types_of_typeFields (of_metaFields served).2
  exact builds.selectFields declared (declared type inside) chosen

end Builds

end Aggregation.Catalog
