import Mathlib.Data.List.Forall2
import Aggregation.Resource
import Aggregation.Proofs.Catalog.Expansion

namespace Aggregation

/-! The course that an expansion takes.

`Catalog.Expands` goes through fields as expansion does, and nothing but its two guards
brings it to an end: the types visited on the way down, and the depth of the catalog.  It
always ends, and with what is computed.  An expanded field is kept together with the field
of a type that it comes from, since a list of scalars and a list of records that are all
left out look the same.
-/

/-- An expanded field with the field of a type that it comes from. -/
structure Origin where
  source : MetaField
  field : Field
  inner : List Origin

namespace Origin

def fields (origins : List Origin) : List Field := origins.map (·.field)

end Origin

namespace Catalog

/-- The course of expanding fields `depth` levels down, with the types visited above them
and the answer: in turn, a field of no named type is an error, one of a type without
fields stays, and a composite one is left out or expanded one level further down. -/
inductive Expands (catalog : Catalog) :
    List MetaField → List String → Nat → Except SchemaError (List Origin) → Prop where
  | nil {visited : List String} {depth : Nat} : Expands catalog [] visited depth (.ok [])
  | unnamed {field : MetaField} {rest : List MetaField} {visited : List String} {depth : Nat}
      {error : SchemaError} :
      field.typeRef.namedTypeFor field.name = .error error →
      Expands catalog (field :: rest) visited depth (.error error)
  | leaf {field : MetaField} {rest : List MetaField} {visited : List String} {depth : Nat}
      {name : String} {answer : Except SchemaError (List Origin)} :
      field.typeRef.namedTypeFor field.name = .ok name → field.typeRef.isComposite = false →
      Expands catalog rest visited depth answer →
      Expands catalog (field :: rest) visited depth
        (answer.map (⟨field, field.leaf name, []⟩ :: ·))
  | leftOut {field : MetaField} {rest : List MetaField} {visited : List String} {depth : Nat}
      {name : String} {answer : Except SchemaError (List Origin)} :
      field.typeRef.namedTypeFor field.name = .ok name → field.typeRef.isComposite = true →
      name ∈ visited ∨ catalog.maxDepth ≤ depth →
      Expands catalog rest visited depth answer →
      Expands catalog (field :: rest) visited depth answer
  | unknown {field : MetaField} {rest : List MetaField} {visited : List String} {depth : Nat}
      {name : String} {error : SchemaError} :
      field.typeRef.namedTypeFor field.name = .ok name → field.typeRef.isComposite = true →
      name ∉ visited → depth < catalog.maxDepth → catalog.typeFields name = .error error →
      Expands catalog (field :: rest) visited depth (.error error)
  | failed {field : MetaField} {rest inner : List MetaField} {visited : List String} {depth : Nat}
      {name : String} {error : SchemaError} :
      field.typeRef.namedTypeFor field.name = .ok name → field.typeRef.isComposite = true →
      name ∉ visited → depth < catalog.maxDepth → catalog.typeFields name = .ok inner →
      Expands catalog inner (name :: visited) (depth + 1) (.error error) →
      Expands catalog (field :: rest) visited depth (.error error)
  | nested {field : MetaField} {rest inner : List MetaField} {visited : List String} {depth : Nat}
      {name : String} {below : List Origin} {answer : Except SchemaError (List Origin)} :
      field.typeRef.namedTypeFor field.name = .ok name → field.typeRef.isComposite = true →
      name ∉ visited → depth < catalog.maxDepth → catalog.typeFields name = .ok inner →
      Expands catalog inner (name :: visited) (depth + 1) (.ok below) →
      Expands catalog rest visited depth answer →
      Expands catalog (field :: rest) visited depth
        (answer.map (⟨field, field.composite name (Origin.fields below), below⟩ :: ·))

variable {catalog : Catalog} {fields : List MetaField} {visited : List String} {depth : Nat}
  {answer : Except SchemaError (List Origin)} {origins : List Origin}

/-- Fields can be expanded if those one level further down can be. -/
theorem exists_expands_of_deeper
    (deeper : depth < catalog.maxDepth → ∀ inner name, ∃ answer,
      catalog.Expands inner (name :: visited) (depth + 1) answer) (fields : List MetaField) :
    ∃ answer, catalog.Expands fields visited depth answer := by
  induction fields with
  | nil => exact ⟨_, .nil⟩
  | cons field rest ih =>
      obtain ⟨answer, later⟩ := ih
      cases named : field.typeRef.namedTypeFor field.name with
      | error error => exact ⟨_, .unnamed named⟩
      | ok name =>
          cases composite : field.typeRef.isComposite with
          | false => exact ⟨_, .leaf named composite later⟩
          | true =>
              by_cases barred : name ∈ visited ∨ catalog.maxDepth ≤ depth
              · exact ⟨_, .leftOut named composite barred later⟩
              · obtain ⟨fresh, shallow⟩ := not_or.mp barred
                have shallow : depth < catalog.maxDepth := Nat.lt_of_not_le shallow
                cases known : catalog.typeFields name with
                | error error => exact ⟨_, .unknown named composite fresh shallow known⟩
                | ok inner =>
                    obtain ⟨result, below⟩ := deeper shallow inner name
                    cases result with
                    | error error => exact ⟨_, .failed named composite fresh shallow known below⟩
                    | ok origins =>
                        exact ⟨_, .nested named composite fresh shallow known below later⟩

/-- Whatever types refer to each other, an expansion comes to an end: each type further down
leaves a level less. -/
theorem exists_expands (catalog : Catalog) (fields : List MetaField) (visited : List String)
    (depth : Nat) : ∃ answer, catalog.Expands fields visited depth answer := by
  -- On the levels left, since the types visited may be any at all.
  induction left : catalog.maxDepth - depth generalizing fields visited depth with
  | zero =>
      have deep : ¬ depth < catalog.maxDepth := by omega
      exact exists_expands_of_deeper (fun shallow => absurd shallow deep) fields
  | succ levels ih =>
      refine exists_expands_of_deeper (fun shallow inner name => ?_) fields
      exact ih inner (name :: visited) (depth + 1) (by omega)

theorem expandField_of_shallow {field : MetaField} {name : String}
    (named : field.typeRef.namedTypeFor field.name = .ok name)
    (composite : field.typeRef.isComposite = true) (fresh : name ∉ visited)
    (shallow : depth < catalog.maxDepth) :
    let expandOne := catalog.expandField (name :: visited) (catalog.maxDepth - (depth + 1))
    catalog.expandField visited (catalog.maxDepth - depth) field =
      ((catalog.typeFields name).bind (expandEach expandOne)).map fun subFields =>
        some (field.composite name subFields) := by
  intro expandOne
  have levels : catalog.maxDepth - depth = catalog.maxDepth - (depth + 1) + 1 := by omega
  rw [levels, expandField_succ named composite fresh, expandType_eq]

/-- What is computed is the answer of the course. -/
theorem Expands.expandEach_eq (expands : catalog.Expands fields visited depth answer) :
    expandEach (catalog.expandField visited (catalog.maxDepth - depth)) fields =
      answer.map Origin.fields := by
  induction expands with
  | nil => rfl
  | unnamed unnamed => exact expandEach_of_error (expandField_of_unnamed unnamed)
  | @leaf _ _ _ _ _ answer named leaf _ later =>
      rw [expandEach_of_ok (expandField_of_leaf named leaf), later]
      cases answer <;> rfl
  | @leftOut _ _ _ _ _ answer named composite barred _ later =>
      have guarded := barred.symm.imp_left Nat.sub_eq_zero_of_le
      rw [expandEach_of_ok (expandField_of_left_out named composite guarded), later]
      cases answer <;> rfl
  | unknown named composite fresh shallow known =>
      refine expandEach_of_error ?_
      rw [expandField_of_shallow named composite fresh shallow, known]
      rfl
  | failed named composite fresh shallow known _ below =>
      refine expandEach_of_error ?_
      rw [expandField_of_shallow named composite fresh shallow, known, Except.bind, below]
      rfl
  | @nested field _ _ visited depth name below answer named composite fresh shallow known _ _ inner
      later =>
      have expanded : catalog.expandField visited (catalog.maxDepth - depth) field =
          .ok (some (field.composite name (Origin.fields below))) := by
        rw [expandField_of_shallow named composite fresh shallow, known, Except.bind, inner]
        rfl
      rw [expandEach_of_ok expanded, later]
      cases answer <;> rfl

/-- The course of expanding the type with a name. -/
inductive ExpandsType (catalog : Catalog) (typeName : String) (visited : List String)
    (depth : Nat) : Except SchemaError (List Origin) → Prop where
  | unknown {error : SchemaError} : catalog.typeFields typeName = .error error →
      ExpandsType catalog typeName visited depth (.error error)
  | known {fields : List MetaField} {answer : Except SchemaError (List Origin)} :
      catalog.typeFields typeName = .ok fields → catalog.Expands fields visited depth answer →
      ExpandsType catalog typeName visited depth answer

theorem ExpandsType.expandType_eq {typeName : String}
    (expands : catalog.ExpandsType typeName visited depth answer) :
    catalog.expandType typeName visited (catalog.maxDepth - depth) =
      answer.map Origin.fields := by
  rw [Catalog.expandType_eq]
  cases expands with
  | unknown unknown =>
      rw [unknown]
      rfl
  | known known expands =>
      rw [known]
      exact expands.expandEach_eq

/-- The expansion of a type comes to an end, with what is computed. -/
theorem exists_expandsType (catalog : Catalog) (typeName : String) (visited : List String)
    (depth : Nat) :
    ∃ answer, catalog.ExpandsType typeName visited depth answer ∧
      catalog.expandType typeName visited (catalog.maxDepth - depth) =
        answer.map Origin.fields := by
  cases known : catalog.typeFields typeName with
  | error error => exact ⟨_, .unknown known, (ExpandsType.unknown known).expandType_eq⟩
  | ok fields =>
      obtain ⟨answer, expands⟩ := catalog.exists_expands fields visited depth
      exact ⟨answer, .known known expands, (ExpandsType.known known expands).expandType_eq⟩

/-- What is made of a field that is selected for a resource: one at the top takes a level
even if its type is the resource's. -/
inductive Seeds (catalog : Catalog) (resource : Resource) : MetaField → Origin → Prop where
  | leaf {field : MetaField} {name : String} :
      field.typeRef.namedType? = some name → field.typeRef.isComposite = false →
      Seeds catalog resource field ⟨field, field.leaf name, []⟩
  | composite {field : MetaField} {name : String} {below : List Origin} :
      field.typeRef.namedType? = some name → field.typeRef.isComposite = true →
      catalog.ExpandsType name [resource.name, name] 1 (.ok below) →
      Seeds catalog resource field ⟨field, field.composite name (Origin.fields below), below⟩

variable {resource : Resource} {selected : MetaField} {field : Field} {name : String}
  {available : List MetaField} {names : List String} {result : List Field}

theorem exists_seeds
    (seeded : catalog.seededField selected
      (resource.name :: selected.typeRef.namedType?.toList) = .ok field) :
    ∃ origin, catalog.Seeds resource selected origin ∧ field = origin.field := by
  cases named : selected.typeRef.namedTypeFor selected.name with
  | error error =>
      rw [seededField, named] at seeded
      contradiction
  | ok name =>
      have given := namedTypeFor_eq_ok_iff.mp named
      cases composite : selected.typeRef.isComposite with
      | false =>
          rw [seededField_of_leaf named composite] at seeded
          cases seeded
          exact ⟨_, .leaf given composite, rfl⟩
      | true =>
          obtain ⟨answer, expands, computed⟩ :=
            catalog.exists_expandsType name [resource.name, name] 1
          rw [given, Option.toList_some, seededField_of_composite named composite, computed]
            at seeded
          obtain ⟨_, fields, rfl⟩ := exists_of_map_eq_ok seeded
          obtain ⟨below, rfl, rfl⟩ := exists_of_map_eq_ok fields
          exact ⟨_, .composite given composite expands, rfl⟩

theorem exists_seeds_of_selectFields
    (chosen : resource.selectFields catalog available names = .ok result) :
    ∃ origins,
      List.Forall₂ (catalog.Seeds resource) (names.filterMap (findMeta? available)) origins ∧
        result = Origin.fields origins := by
  induction names generalizing result with
  | nil =>
      cases chosen
      exact ⟨[], .nil, rfl⟩
  | cons name rest ih =>
      cases found : findMeta? available name with
      | none =>
          simp only [Resource.selectFields, found] at chosen
          rw [List.filterMap_cons_none found]
          exact ih chosen
      | some selected =>
          simp only [Resource.selectFields, found] at chosen
          rw [List.filterMap_cons_some found]
          obtain ⟨field, first, chosen⟩ := exists_of_bind_eq_ok chosen
          obtain ⟨fields, others, same⟩ := exists_of_bind_eq_ok chosen
          cases same
          obtain ⟨origin, seeds, rfl⟩ := exists_seeds first
          obtain ⟨origins, later, rfl⟩ := ih others
          exact ⟨origin :: origins, .cons seeds later, rfl⟩

end Catalog

end Aggregation
