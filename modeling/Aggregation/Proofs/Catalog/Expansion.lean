import Aggregation.Catalog.Basic
import Aggregation.Proofs.Except

namespace Aggregation.Catalog

/-! What each field of a type is expanded to.

A field of a type without fields stays as it is.  A composite field is left out if its
type was visited or no level is left for it, and is expanded with one level less if not.
In all of this it matters which types were visited, and not in which order.
-/

variable {catalog : Catalog} {visited others : List String} {levels : Nat} {field : MetaField}
  {rest : List MetaField} {name typeName : String} {error : SchemaError}

/-- What a field is expanded to, nothing if it is left out; `levels` counts its own level
of composite fields too. -/
def expandField (catalog : Catalog) (visited : List String) (levels : Nat) (field : MetaField) :
    Except SchemaError (Option Field) := do
  let name ← field.typeRef.namedTypeFor field.name
  if !field.typeRef.isComposite then return some (field.leaf name)
  else if levels = 0 ∨ name ∈ visited then return none
  else
    let subFields ← catalog.expandType name (name :: visited) (levels - 1)
    return some (field.composite name subFields)

theorem expandType_eq (catalog : Catalog) (typeName : String) (visited : List String)
    (levels : Nat) :
    catalog.expandType typeName visited levels =
      (catalog.typeFields typeName).bind (expandEach (catalog.expandField visited levels)) := by
  cases levels with
  | zero =>
      rw [expandType]
      refine congrArg _ (funext fun fields => ?_)
      refine congrArg (expandEach · fields) (funext fun field => ?_)
      cases composite : field.typeRef.isComposite <;> simp [expandField, composite]
  | succ levels =>
      rw [expandType]
      refine congrArg _ (funext fun fields => ?_)
      refine congrArg (expandEach · fields) (funext fun field => ?_)
      simp [expandField]

theorem namedTypeFor_eq_ok_iff {owner : String} {ref : TypeRef} :
    ref.namedTypeFor owner = .ok name ↔ ref.namedType? = some name := by
  unfold TypeRef.namedTypeFor
  split
  · next found => simp [found]
  · next absent => simp [absent]

section Cases

variable (named : field.typeRef.namedTypeFor field.name = .ok name)

theorem expandField_of_unnamed (unnamed : field.typeRef.namedTypeFor field.name = .error error) :
    catalog.expandField visited levels field = .error error := by
  rw [expandField, unnamed]
  rfl

include named

theorem expandField_of_leaf (leaf : field.typeRef.isComposite = false) :
    catalog.expandField visited levels field = .ok (some (field.leaf name)) := by
  rw [expandField, named, leaf]
  rfl

theorem expandField_of_left_out (composite : field.typeRef.isComposite = true)
    (barred : levels = 0 ∨ name ∈ visited) :
    catalog.expandField visited levels field = .ok none := by
  simp [expandField, named, composite, barred, bind, Except.bind, pure, Except.pure]

theorem expandField_succ (composite : field.typeRef.isComposite = true) (fresh : name ∉ visited) :
    catalog.expandField visited (levels + 1) field =
      (catalog.expandType name (name :: visited) levels).map fun subFields =>
        some (field.composite name subFields) := by
  cases inner : catalog.expandType name (name :: visited) levels <;>
    simp [expandField, named, composite, fresh, inner, bind, Except.bind, pure, Except.pure,
      Except.map]

theorem seededField_of_leaf (leaf : field.typeRef.isComposite = false) :
    catalog.seededField field visited = .ok (field.leaf name) := by
  rw [seededField, named, leaf]
  rfl

theorem seededField_of_composite (composite : field.typeRef.isComposite = true) :
    catalog.seededField field visited =
      (catalog.expandType name visited (catalog.maxDepth - 1)).map (field.composite name) := by
  rw [seededField, named, composite]
  cases inner : catalog.expandType name visited (catalog.maxDepth - 1) <;>
    simp [inner, bind, Except.bind, pure, Except.pure, Except.map]

end Cases

/-- A field that is expanded stays as it is, is left out, or takes a level. -/
theorem expandField_cases {result : Option Field}
    (expanded : catalog.expandField visited levels field = .ok result) :
    ∃ name, field.typeRef.namedTypeFor field.name = .ok name ∧
      ((field.typeRef.isComposite = false ∧ result = some (field.leaf name)) ∨
        (field.typeRef.isComposite = true ∧ (levels = 0 ∨ name ∈ visited) ∧ result = none) ∨
        field.typeRef.isComposite = true ∧ name ∉ visited ∧ ∃ fewer subFields,
          levels = fewer + 1 ∧ catalog.expandType name (name :: visited) fewer = .ok subFields ∧
            result = some (field.composite name subFields)) := by
  cases named : field.typeRef.namedTypeFor field.name with
  | error error =>
      rw [expandField_of_unnamed named] at expanded
      contradiction
  | ok name =>
      refine ⟨name, rfl, ?_⟩
      cases composite : field.typeRef.isComposite with
      | false =>
          rw [expandField_of_leaf named composite] at expanded
          cases expanded
          exact .inl ⟨rfl, rfl⟩
      | true =>
          by_cases barred : levels = 0 ∨ name ∈ visited
          · rw [expandField_of_left_out named composite barred] at expanded
            cases expanded
            exact .inr (.inl ⟨rfl, barred, rfl⟩)
          · obtain ⟨remaining, fresh⟩ := not_or.mp barred
            obtain ⟨fewer, rfl⟩ := Nat.exists_eq_succ_of_ne_zero remaining
            rw [expandField_succ named composite fresh] at expanded
            obtain ⟨subFields, inner, same⟩ := exists_of_map_eq_ok expanded
            exact .inr (.inr ⟨rfl, fresh, fewer, subFields, rfl, inner, same⟩)

theorem expandField_congr (catalog : Catalog) (same : ∀ name, name ∈ visited ↔ name ∈ others)
    (below : ∀ typeName, levels ≠ 0 →
      catalog.expandType typeName (typeName :: visited) (levels - 1) =
        catalog.expandType typeName (typeName :: others) (levels - 1)) (field : MetaField) :
    catalog.expandField visited levels field = catalog.expandField others levels field := by
  rw [expandField, expandField]
  refine congrArg _ (funext fun name => ?_)
  by_cases barred : levels = 0 ∨ name ∈ visited
  · have also : levels = 0 ∨ name ∈ others := barred.imp_right (same name).mp
    rw [if_pos barred, if_pos also]
  · have neither : ¬ (levels = 0 ∨ name ∈ others) :=
      fun also => barred (also.imp_right (same name).mpr)
    rw [if_neg barred, if_neg neither, below name fun zero => barred (.inl zero)]

/-- Only which types were visited matters, at every level. -/
theorem expandType_congr (catalog : Catalog) (typeName : String) (levels : Nat)
    (same : ∀ name, name ∈ visited ↔ name ∈ others) :
    catalog.expandType typeName visited levels = catalog.expandType typeName others levels := by
  induction levels generalizing typeName visited others with
  | zero =>
      have fieldwise := catalog.expandField_congr same fun _ given => absurd rfl given
      rw [expandType_eq, expandType_eq, funext fieldwise]
  | succ levels ih =>
      have deeper (name : String) : ∀ other, other ∈ name :: visited ↔ other ∈ name :: others := by
        intro other
        rw [List.mem_cons, List.mem_cons, same]
      have fieldwise : ∀ field, catalog.expandField visited (levels + 1) field =
          catalog.expandField others (levels + 1) field :=
        catalog.expandField_congr same fun name _ => ih name (deeper name)
      rw [expandType_eq, expandType_eq, funext fieldwise]

section Each

variable {expandOne : MetaField → Except SchemaError (Option Field)} {expanded : Option Field}

theorem expandEach_of_error (failed : expandOne field = .error error) :
    expandEach expandOne (field :: rest) = .error error := by
  rw [expandEach, failed]
  rfl

theorem expandEach_of_ok (succeeded : expandOne field = .ok expanded) :
    expandEach expandOne (field :: rest) =
      (expandEach expandOne rest).map (expanded.toList ++ ·) := by
  rw [expandEach, succeeded]
  cases expandEach expandOne rest <;> rfl

end Each

def recordRef (name : String) : TypeRef := ⟨.object, some name, none⟩

def textRef : TypeRef := ⟨.scalar, some "String", none⟩

/-- Teams and users, who refer to each other, with a depth of two. -/
def teams : Catalog where
  queryType := "Query"
  types :=
    [⟨"Query", .object, some [⟨"allTeams", ⟨.list, none, some (recordRef "Team")⟩⟩]⟩,
      ⟨"Team", .object, some [⟨"name", textRef⟩, ⟨"lead", recordRef "User"⟩,
        ⟨"parent", recordRef "Team"⟩]⟩,
      ⟨"User", .object, some [⟨"name", textRef⟩, ⟨"badge", recordRef "Badge"⟩,
        ⟨"team", recordRef "Team"⟩]⟩,
      ⟨"Badge", .object, some [⟨"colour", textRef⟩, ⟨"owner", recordRef "User"⟩]⟩]
  maxDepth := 2

/-- What expansion leaves of users below a team. -/
def userFields : List Field :=
  [.makeScalar "name" "String", .makeObject "badge" "Badge" [.makeScalar "colour" "String"]]

def teamFields : List Field :=
  [.makeScalar "name" "String", .makeObject "lead" "User" userFields]

end Aggregation.Catalog
