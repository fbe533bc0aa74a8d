import Aggregation.Resource
import Aggregation.Proofs.Catalog.Expansion
import Aggregation.Proofs.Field.Lookup

namespace Aggregation

/-! Selected fields and fully expanded records.

Fields that a user selects are expanded one by one, and the records of a query all at once.
The two start with other visited types and count levels from another place, but they reach
the fields below a composite one with the same types visited and the same levels left.
-/

namespace MetaField

theorem name_leaf (field : MetaField) (typeName : String) :
    (field.leaf typeName).name = field.name := by
  unfold leaf
  split <;> rfl

theorem name_composite (field : MetaField) (typeName : String) (subFields : List Field) :
    (field.composite typeName subFields).name = field.name := by
  unfold composite
  split <;> rfl

end MetaField

namespace Catalog

variable {catalog : Catalog} {visited names : List String} {levels : Nat} {field : MetaField}
  {available : List MetaField} {fields : List Field} {result : Option Field}
  {name barred query : String}

theorem name_of_expandField {kept : Field}
    (expanded : catalog.expandField visited levels field = .ok (some kept)) :
    kept.name = field.name := by
  obtain ⟨typeName, -, leaf | leftOut | nested⟩ := expandField_cases expanded
  · obtain ⟨-, same⟩ := leaf
    cases same
    exact field.name_leaf typeName
  · obtain ⟨-, -, absent⟩ := leftOut
    contradiction
  · obtain ⟨-, -, -, subFields, -, -, same⟩ := nested
    cases same
    exact field.name_composite typeName subFields

section Each

variable {expandOne : MetaField → Except SchemaError (Option Field)}

theorem expandEach_cons_eq_ok {rest : List MetaField}
    (expanded : expandEach expandOne (field :: rest) = .ok fields) :
    ∃ first others, expandOne field = .ok first ∧ expandEach expandOne rest = .ok others ∧
      fields = first.toList ++ others := by
  cases one : expandOne field with
  | error error =>
      rw [expandEach_of_error one] at expanded
      contradiction
  | ok first =>
      rw [expandEach_of_ok one] at expanded
      obtain ⟨others, later, rfl⟩ := exists_of_map_eq_ok expanded
      exact ⟨first, others, rfl, later, rfl⟩

variable (keepsName : ∀ field kept, expandOne field = .ok (some kept) → kept.name = field.name)

include keepsName

theorem find?_first {first : Option Field} (expanded : expandOne field = .ok first)
    (other : field.name ≠ name) : Field.find? first.toList name = none := by
  cases first with
  | none => rfl
  | some kept =>
      have named : kept.name ≠ name := keepsName field kept expanded ▸ other
      exact List.find?_cons_of_neg (by simpa using named)

theorem find?_of_findMeta?_none (expanded : expandEach expandOne available = .ok fields)
    (absent : findMeta? available name = none) : Field.find? fields name = none := by
  induction available generalizing fields with
  | nil =>
      cases expanded
      rfl
  | cons field rest ih =>
      obtain ⟨first, others, one, later, rfl⟩ := expandEach_cons_eq_ok expanded
      have unlike := List.find?_eq_none.mp absent
      have other : field.name ≠ name := by simpa using unlike field List.mem_cons_self
      have absent : findMeta? rest name = none :=
        List.find?_eq_none.mpr fun field member => unlike field (List.mem_cons_of_mem _ member)
      rw [Field.find?, List.find?_append]
      exact Option.or_eq_none_iff.mpr ⟨find?_first keepsName one other, ih later absent⟩

/-- Among fields with distinct names, each is found as what it is expanded to. -/
theorem expandOne_eq_find? (distinct : (available.map (·.name)).Nodup)
    (expanded : expandEach expandOne available = .ok fields)
    (found : findMeta? available name = some field) :
    expandOne field = .ok (Field.find? fields name) := by
  induction available generalizing fields with
  | nil => contradiction
  | cons head rest ih =>
      obtain ⟨first, others, one, later, rfl⟩ := expandEach_cons_eq_ok expanded
      obtain ⟨unlike, distinct⟩ := List.nodup_cons.mp distinct
      have split : Field.find? (first.toList ++ others) name =
          (Field.find? first.toList name).or (Field.find? others name) := List.find?_append
      by_cases same : head.name = name
      · have here : findMeta? (head :: rest) name = some head :=
          List.find?_cons_of_pos (by simpa using same)
        obtain rfl : head = field := Option.some.inj (here.symm.trans found)
        cases first with
        | some kept =>
            have named : kept.name = name := (keepsName head kept one).trans same
            have taken : Field.find? (some kept).toList name = some kept :=
              List.find?_cons_of_pos (by simpa using named)
            rw [one, split, taken, Option.some_or]
        | none =>
            -- What is left out here has no namesake further on.
            have absent : findMeta? rest name = none := by
              refine List.find?_eq_none.mpr fun field member => ?_
              have differ : field.name ≠ name := fun also =>
                unlike (List.mem_map.mpr ⟨field, member, also.trans same.symm⟩)
              simpa using differ
            rw [one, split, find?_of_findMeta?_none keepsName later absent]
            rfl
      · have further : findMeta? (head :: rest) name = findMeta? rest name :=
          List.find?_cons_of_neg (by simpa using same)
        rw [split, find?_first keepsName one same, Option.none_or]
        exact ih distinct later (further.symm.trans found)

end Each

/-- Where it is not left out, a field is the same expanded among others as selected. -/
theorem seededField_of_expandField (deep : 1 ≤ catalog.maxDepth)
    (apart : field.typeRef.isComposite = true → field.typeRef.namedType? ≠ some barred)
    (expanded : catalog.expandField [barred] catalog.maxDepth field = .ok result) :
    ∃ kept, result = some kept ∧
      catalog.seededField field (barred :: field.typeRef.namedType?.toList) = .ok kept := by
  obtain ⟨typeName, named, leaf | leftOut | nested⟩ := expandField_cases expanded
  · obtain ⟨leaf, rfl⟩ := leaf
    exact ⟨_, rfl, seededField_of_leaf named leaf⟩
  · obtain ⟨composite, shallow | member, -⟩ := leftOut
    · omega
    · obtain rfl := List.mem_singleton.mp member
      exact absurd (namedTypeFor_eq_ok_iff.mp named) (apart composite)
  · obtain ⟨composite, -, fewer, subFields, levels, inner, rfl⟩ := nested
    -- The same two types are visited, in another order.
    have reordered : ∀ other, other ∈ [typeName, barred] ↔ other ∈ [barred, typeName] :=
      fun other => List.Perm.mem_iff (.swap barred typeName [])
    have seeded : catalog.expandType typeName [barred, typeName] (catalog.maxDepth - 1) =
        .ok subFields := by
      rw [levels, Nat.add_sub_cancel, ← catalog.expandType_congr typeName fewer reordered, inner]
    refine ⟨_, rfl, ?_⟩
    rw [namedTypeFor_eq_ok_iff.mp named, Option.toList_some,
      seededField_of_composite named composite, seeded]
    rfl

theorem of_metaFields {recordType : String}
    (served : catalog.metaFields query = .ok (recordType, available)) :
    catalog.queryRecordType query = .ok recordType ∧
      catalog.typeFields recordType = .ok available := by
  obtain ⟨typeName, records, served⟩ := exists_of_bind_eq_ok served
  obtain ⟨fields, known, same⟩ := exists_of_bind_eq_ok served
  cases same
  exact ⟨records, known⟩

end Catalog

variable {catalog : Catalog} {resource : Resource} {available : List MetaField}
  {names : List String}

/-- Selection looks names up, if every field with a name is as looked up and all other names
lead nowhere. -/
theorem Resource.selectFields_eq_filterMap {lookup : String → Option Field}
    (absent : ∀ name, Catalog.findMeta? available name = none → lookup name = none)
    (present : ∀ name ∈ names, ∀ selected, Catalog.findMeta? available name = some selected →
      ∃ field, lookup name = some field ∧
        catalog.seededField selected (resource.name :: selected.typeRef.namedType?.toList) =
          .ok field) :
    resource.selectFields catalog available names = .ok (names.filterMap lookup) := by
  induction names with
  | nil => rfl
  | cons name rest ih =>
      have later := ih fun name member => present name (List.mem_cons_of_mem _ member)
      cases found : Catalog.findMeta? available name with
      | none =>
          rw [List.filterMap_cons_none (absent name found), selectFields, found]
          exact later
      | some selected =>
          obtain ⟨field, looked, seeded⟩ := present name List.mem_cons_self selected found
          rw [List.filterMap_cons_some looked, selectFields, found]
          simp only [seeded, later]
          rfl

/-- Fields that are selected from what a query serves, none of which is a record of the
query's own type, are the same as in its fully expanded records. -/
theorem sourceFields_eq_expanded (catalog : Catalog) (query : String) (resource : Resource)
    (names : List String) (available : List MetaField) (fields : List Field)
    (deep : 1 ≤ catalog.maxDepth)
    (served : catalog.metaFields query = .ok (resource.name, available))
    (distinct : (available.map (·.name)).Nodup) (queried : resource.queryName = some query)
    (apart : ∀ name ∈ names, ∀ selected, Catalog.findMeta? available name = some selected →
      selected.typeRef.isComposite = true → selected.typeRef.namedType? ≠ some resource.name)
    (expanded : catalog.getFields query = .ok fields) :
    resource.sourceFields catalog names = .ok (names.filterMap (Field.find? fields)) ∧
      ∀ name ∈ names, Field.find? fields name = none ↔
        Catalog.findMeta? available name = none := by
  obtain ⟨records, known⟩ := Catalog.of_metaFields served
  have whole : Catalog.expandEach (catalog.expandField [resource.name] catalog.maxDepth) available =
      .ok fields := by
    rw [Catalog.getFields, records] at expanded
    change catalog.expandType resource.name [resource.name] catalog.maxDepth =
      .ok fields at expanded
    rwa [Catalog.expandType_eq, known] at expanded
  have keepsName (field : MetaField) (kept : Field)
      (expanded : catalog.expandField [resource.name] catalog.maxDepth field = .ok (some kept)) :
      kept.name = field.name := Catalog.name_of_expandField expanded
  have absent (name : String) (missing : Catalog.findMeta? available name = none) :
      Field.find? fields name = none :=
    Catalog.find?_of_findMeta?_none keepsName whole missing
  have present (name : String) (member : name ∈ names) (selected : MetaField)
      (found : Catalog.findMeta? available name = some selected) :
      ∃ field, Field.find? fields name = some field ∧
        catalog.seededField selected (resource.name :: selected.typeRef.namedType?.toList) =
          .ok field := by
    have among := Catalog.expandOne_eq_find? keepsName distinct whole found
    exact Catalog.seededField_of_expandField deep (apart name member selected found) among
  constructor
  · rw [Resource.sourceFields, queried, Option.getD_some, served]
    exact Resource.selectFields_eq_filterMap absent present
  · intro name member
    refine ⟨fun missing => ?_, absent name⟩
    cases found : Catalog.findMeta? available name with
    | none => rfl
    | some selected =>
        obtain ⟨field, looked, -⟩ := present name member selected found
        rw [missing] at looked
        contradiction

theorem teams_lead_selected :
    let resource : Resource := ⟨"r1", "Team", some "allTeams"⟩
    let names := ["lead", "salary", "name", "lead"]
    let available : List MetaField := [⟨"name", Catalog.textRef⟩,
      ⟨"lead", Catalog.recordRef "User"⟩, ⟨"parent", Catalog.recordRef "Team"⟩]
    let lead : Field := .makeObject "lead" "User" Catalog.userFields
    1 ≤ Catalog.teams.maxDepth ∧ Catalog.teams.metaFields "allTeams" = .ok ("Team", available) ∧
      (available.map (·.name)).Nodup ∧
      (∀ name ∈ names, ∀ selected, Catalog.findMeta? available name = some selected →
        selected.typeRef.isComposite = true → selected.typeRef.namedType? ≠ some "Team") ∧
      Catalog.teams.getFields "allTeams" = .ok Catalog.teamFields ∧
      resource.sourceFields Catalog.teams names =
        .ok [lead, .makeScalar "name" "String", lead] := by
  intro resource names available lead
  have served : Catalog.teams.metaFields "allTeams" = .ok ("Team", available) := rfl
  have distinct : (available.map (·.name)).Nodup := by decide
  have apart : ∀ name ∈ names, ∀ selected, Catalog.findMeta? available name = some selected →
      selected.typeRef.isComposite = true → selected.typeRef.namedType? ≠ some "Team" := by
    intro name member selected found
    simp only [names, List.mem_cons, List.not_mem_nil, or_false] at member
    rcases member with rfl | rfl | rfl | rfl
    · cases found
      decide
    · contradiction
    · cases found
      decide
    · cases found
      decide
  have expanded : Catalog.teams.getFields "allTeams" = .ok Catalog.teamFields := rfl
  obtain ⟨chosen, -⟩ := sourceFields_eq_expanded Catalog.teams "allTeams" resource names available
    Catalog.teamFields (by decide) served distinct rfl apart expanded
  exact ⟨by decide, served, distinct, apart, expanded, chosen⟩

end Aggregation
