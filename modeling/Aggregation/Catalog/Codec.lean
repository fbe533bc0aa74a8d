import Aggregation.Json.Record
import Aggregation.Catalog.Basic

namespace Aggregation

/-! Type catalogs in JSON, as introspection writes them. -/

namespace TypeKind

def toJson (kind : TypeKind) : Json := .string kind.name

def ofJson? : Json → Option TypeKind := Json.variant? ofName?

end TypeKind

namespace TypeRef

def toJson : TypeRef → Json
  | ⟨kind, name, none⟩ =>
    .object [("kind", kind.toJson), ("name", Json.orNull .string name), ("ofType", .null)]
  | ⟨kind, name, some inner⟩ =>
    .object [("kind", kind.toJson), ("name", Json.orNull .string name),
      ("ofType", inner.toJson)]

def keys : List String := ["kind", "name", "ofType"]

def ofJson? (tree : Json) : Option TypeRef :=
  if tree.isRecord keys then do
    let kind ← Json.required TypeKind.ofJson? (tree.member? 0 "kind")
    let name ← Json.optional Json.text? (tree.member? 1 "name")
    match _ : tree.member? 2 "ofType" with
    | none => return ⟨kind, name, none⟩
    | some inner =>
      if inner matches .null then return ⟨kind, name, none⟩
      else
        let inner ← ofJson? inner
        return ⟨kind, name, some inner⟩
  else none
termination_by sizeOf tree
decreasing_by exact Json.sizeOf_member_lt ‹tree.member? 2 "ofType" = some _›

end TypeRef

namespace MetaField

def toJson (field : MetaField) : Json :=
  .object [("name", .string field.name), ("type", field.typeRef.toJson)]

def keys : List String := ["name", "type"]

def ofJson? (tree : Json) : Option MetaField := do
  guard (tree.isRecord keys)
  let name ← Json.required Json.text? (tree.member? 0 "name")
  let typeRef ← Json.required TypeRef.ofJson? (tree.member? 1 "type")
  return ⟨name, typeRef⟩

end MetaField

namespace MetaType

def fieldsToJson (fields : List MetaField) : Json := .array (fields.map MetaField.toJson)

def toJson (type : MetaType) : Json :=
  .object [("name", .string type.name), ("kind", type.kind.toJson),
    ("fields", Json.orNull fieldsToJson type.fields)]

def keys : List String := ["name", "kind", "fields"]

def ofJson? (tree : Json) : Option MetaType := do
  guard (tree.isRecord keys)
  let name ← Json.required Json.text? (tree.member? 0 "name")
  let kind ← Json.required TypeKind.ofJson? (tree.member? 1 "kind")
  let fields ← Json.optional (Json.list? MetaField.ofJson?) (tree.member? 2 "fields")
  return ⟨name, kind, fields⟩

end MetaType

namespace Introspection

def toJson (introspection : Introspection) : Json :=
  .object [("queryType", .object [("name", .string introspection.queryType)]),
    ("types", .array (introspection.types.map MetaType.toJson))]

def namedRef? (tree : Json) : Option String := do
  guard (tree.isRecord ["name"])
  Json.required Json.text? (tree.member? 0 "name")

def keys : List String := ["queryType", "types"]

def ofJson? (tree : Json) : Option Introspection := do
  guard (tree.isRecord keys)
  let queryType ← Json.required namedRef? (tree.member? 0 "queryType")
  let types ← Json.required (Json.list? MetaType.ofJson?) (tree.member? 1 "types")
  return ⟨queryType, types⟩

def envelopeToJson (introspection : Introspection) : Json :=
  .object [("__schema", introspection.toJson)]

def ofEnvelope? (tree : Json) : Option Introspection := do
  guard (tree.isRecord ["__schema"])
  Json.required ofJson? (tree.member? 0 "__schema")

end Introspection

end Aggregation
