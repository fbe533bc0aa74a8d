import Aggregation.Catalog.Codec

namespace Aggregation

/-! Resources, and the fields that a user selects from one. -/

structure Resource where
  id : String
  name : String
  /-- The root query that serves the resource's records. -/
  queryName : Option String
deriving DecidableEq, Repr

/-- Where resources and types are looked up. -/
structure MetadataSource where
  resource : (id : String) → Except NetworkError Resource
  catalog : Except NetworkError Catalog

namespace Resource

def toJson (resource : Resource) : Json :=
  .object [("id", .string resource.id), ("name", .string resource.name),
    ("queryName", Json.orNull .string resource.queryName)]

def keys : List String := ["id", "name", "queryName"]

def ofJson? (tree : Json) : Option Resource := do
  guard (tree.isRecord keys)
  let id ← Json.required Json.text? (tree.member? 0 "id")
  let name ← Json.required Json.text? (tree.member? 1 "name")
  let queryName ← Json.optional Json.text? (tree.member? 2 "queryName")
  return ⟨id, name, queryName⟩

/-- The fields among `available` with the given names, in that order; names of no
field are dropped.  Below a field, neither the resource's type nor the field's
own is expanded again. -/
def selectFields (catalog : Catalog) (resource : Resource) (available : List MetaField) :
    (names : List String) → Except SchemaError (List Field)
  | [] => .ok []
  | name :: rest =>
    match Catalog.findMeta? available name with
    | none => selectFields catalog resource available rest
    | some selected => do
      let visited := resource.name :: selected.typeRef.namedType?.toList
      let field ← catalog.seededField selected visited
      let fields ← selectFields catalog resource available rest
      return field :: fields

def sourceFields (catalog : Catalog) (resource : Resource) (names : List String) :
    Except SchemaError (List Field) := do
  let (_, available) ← catalog.metaFields (resource.queryName.getD "")
  selectFields catalog resource available names

end Resource

namespace MetadataSource

def network {α : Type} : Except NetworkError α → Except EngineError α :=
  Except.mapError .network

/-- Looks up a resource and the catalog, and selects the resource's fields. -/
def loadSourceFields (source : MetadataSource) (id : String) (names : List String) :
    Except EngineError (List Field) := do
  let resource ← network (source.resource id)
  let catalog ← network source.catalog
  (resource.sourceFields catalog names).mapError .schema

end MetadataSource

end Aggregation
