import Aggregation.Json.Record
import Aggregation.Field.Basic

namespace Aggregation

/-! Fields in JSON. -/

namespace Field

def Kind.toJson (kind : Kind) : Json := .string kind.name

def Kind.ofJson? : Json → Option Kind := Json.variant? Kind.ofName?

def keys : List String := ["name", "kind", "typeName", "subFields"]

mutual

def toJson : Field → Json
  | ⟨name, kind, typeName, none⟩ =>
    .object [("name", .string name), ("kind", kind.toJson), ("typeName", .string typeName)]
  | ⟨name, kind, typeName, some subFields⟩ =>
    .object [("name", .string name), ("kind", kind.toJson), ("typeName", .string typeName),
      ("subFields", .array (allToJson subFields))]

def allToJson : List Field → List Json
  | [] => []
  | field :: rest => toJson field :: allToJson rest

end

mutual

def ofJson? (tree : Json) : Option Field :=
  if tree.isRecord keys then do
    let name ← Json.required Json.text? (tree.member? 0 "name")
    let kind ← Json.required Kind.ofJson? (tree.member? 1 "kind")
    let typeName ← Json.required Json.text? (tree.member? 2 "typeName")
    match _ : tree.member? 3 "subFields" with
    | none | some .null => return ⟨name, kind, typeName, none⟩
    | some (.array items) =>
      let subFields ← allOfJson? items
      return ⟨name, kind, typeName, some subFields⟩
    | _ => none
  else none
termination_by sizeOf tree
decreasing_by
  have := Json.sizeOf_member_lt ‹tree.member? 3 "subFields" = some (.array items)›
  simp at this
  omega

def allOfJson? : List Json → Option (List Field)
  | [] => some []
  | item :: rest => do
    let field ← ofJson? item
    let fields ← allOfJson? rest
    return field :: fields
termination_by items => sizeOf items

end

def listToJson (fields : List Field) : Json := .array (allToJson fields)

def listOfJson? : Json → Option (List Field)
  | .array items => allOfJson? items
  | _ => none

end Field

end Aggregation
