import Aggregation.Field.Basic

namespace Aggregation

/-! The type catalog of an API, and fields expanded from it.

Types refer to each other without restriction, so that expansion has two guards:
composite fields of a type already visited on the way down are left out, and so
are those deeper than the catalog's depth.
-/

inductive TypeKind where
  | scalar
  | object
  | interface
  | union
  | enum
  | inputObject
  | list
  | nonNull
deriving DecidableEq, Repr

namespace TypeKind

def name : TypeKind → String
  | scalar => "SCALAR"
  | object => "OBJECT"
  | interface => "INTERFACE"
  | union => "UNION"
  | enum => "ENUM"
  | inputObject => "INPUT_OBJECT"
  | list => "LIST"
  | nonNull => "NON_NULL"

def ofName? : String → Option TypeKind
  | "SCALAR" => some scalar
  | "OBJECT" => some object
  | "INTERFACE" => some interface
  | "UNION" => some union
  | "ENUM" => some enum
  | "INPUT_OBJECT" => some inputObject
  | "LIST" => some list
  | "NON_NULL" => some nonNull
  | _ => none

/-- Whether types of a kind have fields of their own. -/
def isComposite : TypeKind → Bool
  | object | interface | union => true
  | _ => false

end TypeKind

/-- A reference to a type, which wrappers such as `[Tag!]!` may surround. -/
structure TypeRef where
  kind : TypeKind
  name : Option String
  ofType : Option TypeRef

namespace TypeRef

/-- The outermost type that is not a non-null wrapper around another. -/
def stripNonNull : TypeRef → TypeRef
  | ⟨.nonNull, _, some inner⟩ => inner.stripNonNull
  | other => other

/-- The first name on the way inwards. -/
def namedType? : TypeRef → Option String
  | ⟨_, some name, _⟩ => some name
  | ⟨_, none, some inner⟩ => inner.namedType?
  | ⟨_, none, none⟩ => none

def innermost : TypeRef → TypeRef
  | ⟨_, _, some inner⟩ => inner.innermost
  | ⟨kind, name, none⟩ => ⟨kind, name, none⟩

def fieldKind (ref : TypeRef) : Field.Kind :=
  match ref.stripNonNull.kind with
  | .list => .list
  | kind => if kind.isComposite then .object else .scalar

/-- Whether the innermost type has fields of its own. -/
def isComposite (ref : TypeRef) : Bool := ref.innermost.kind.isComposite

/-- The named type, which the field `owner` cannot do without. -/
def namedTypeFor (owner : String) (ref : TypeRef) : Except SchemaError String :=
  match ref.namedType? with
  | some name => .ok name
  | none => .error (.malformedField owner "type reference has no named type")

end TypeRef

structure MetaField where
  name : String
  typeRef : TypeRef

namespace MetaField

/-- The field for a type without fields; a list of such unwinds to an element of
the same name. -/
def leaf (field : MetaField) (typeName : String) : Field :=
  match field.typeRef.fieldKind with
  | .list => .makeList field.name typeName []
  | _ => .makeScalar field.name typeName

def composite (field : MetaField) (typeName : String) (subFields : List Field) : Field :=
  match field.typeRef.fieldKind with
  | .list => .makeList field.name typeName subFields
  | _ => .makeObject field.name typeName subFields

end MetaField

structure MetaType where
  name : String
  kind : TypeKind
  fields : Option (List MetaField)

structure Introspection where
  queryType : String
  types : List MetaType

structure Catalog where
  /-- The name of the root type, whose fields are the queries. -/
  queryType : String
  types : List MetaType
  maxDepth : Nat

namespace Catalog

def defaultMaxDepth : Nat := 8

def ofIntrospection (introspection : Introspection) : Catalog :=
  ⟨introspection.queryType, introspection.types, defaultMaxDepth⟩

def withMaxDepth (catalog : Catalog) (maxDepth : Nat) : Catalog := { catalog with maxDepth }

/-- The type with a name; of several, the last. -/
def type? (catalog : Catalog) (name : String) : Option MetaType :=
  (catalog.types.filter (·.name == name)).getLast?

/-- The fields of a type, none if it has no fields of its own. -/
def typeFields (catalog : Catalog) (name : String) : Except SchemaError (List MetaField) :=
  match catalog.type? name with
  | some type => .ok (type.fields.getD [])
  | none => .error (.unknownType name)

def findMeta? (fields : List MetaField) (name : String) : Option MetaField :=
  fields.find? (·.name == name)

/-- The fields of a type, if it is known. -/
def knownFields? (catalog : Catalog) (name : String) : Option (List MetaField) :=
  (catalog.type? name).map fun type => type.fields.getD []

/-- The node type of a connection (`edges { node }`) with these fields. -/
def nodeType? (catalog : Catalog) (fields : List MetaField) : Option String := do
  let edges ← findMeta? fields "edges"
  let edgeType ← edges.typeRef.namedType?
  let edgeFields ← catalog.knownFields? edgeType
  let node ← findMeta? edgeFields "node"
  node.typeRef.namedType?

/-- The type of the records that a query serves: for a connection, that of its
nodes. -/
def queryRecordType (catalog : Catalog) (query : String) : Except SchemaError String := do
  let root ← catalog.typeFields catalog.queryType
  match findMeta? root query with
  | none => .error (.unknownQuery query)
  | some field =>
    let typeName ← field.typeRef.namedTypeFor field.name
    return ((catalog.knownFields? typeName).bind catalog.nodeType?).getD typeName

/-- The record type of a query and its fields, not expanded. -/
def metaFields (catalog : Catalog) (query : String) :
    Except SchemaError (String × List MetaField) := do
  let recordType ← catalog.queryRecordType query
  let fields ← catalog.typeFields recordType
  return (recordType, fields)

/-- Collects what `expandOne` leaves of each field. -/
def expandEach (expandOne : MetaField → Except SchemaError (Option Field)) :
    List MetaField → Except SchemaError (List Field)
  | [] => .ok []
  | field :: rest => do
    let expanded ← expandOne field
    let others ← expandEach expandOne rest
    return expanded.toList ++ others

/-- Expands the fields of a type; `levels` is how many levels of composite fields
may still follow. -/
def expandType (catalog : Catalog) (typeName : String) (visited : List String) :
    (levels : Nat) → Except SchemaError (List Field)
  | 0 => do
    let fields ← catalog.typeFields typeName
    expandEach (fun field => do
      let name ← field.typeRef.namedTypeFor field.name
      return if field.typeRef.isComposite then none else some (field.leaf name)) fields
  | levels + 1 => do
    let fields ← catalog.typeFields typeName
    expandEach (fun field => do
      let name ← field.typeRef.namedTypeFor field.name
      if !field.typeRef.isComposite then return some (field.leaf name)
      else if visited.contains name then return none
      else
        let subFields ← expandType catalog name (name :: visited) levels
        return some (field.composite name subFields)) fields

/-- The fields of the records that a query serves, fully expanded. -/
def getFields (catalog : Catalog) (query : String) : Except SchemaError (List Field) := do
  let recordType ← catalog.queryRecordType query
  catalog.expandType recordType [recordType] catalog.maxDepth

/-- The fields of the type that a reference names; composite fields of visited
types are left out. -/
def deconfineFields (catalog : Catalog) (ref : TypeRef) (visited : List String) :
    Except SchemaError (List Field) := do
  let typeName ← ref.namedTypeFor "<type>"
  catalog.expandType typeName visited catalog.maxDepth

/-- A top-level field, which takes the first level of depth and is expanded even
if its type was visited. -/
def seededField (catalog : Catalog) (field : MetaField) (visited : List String) :
    Except SchemaError Field := do
  let typeName ← field.typeRef.namedTypeFor field.name
  if !field.typeRef.isComposite then return field.leaf typeName
  else
    let subFields ← catalog.expandType typeName visited (catalog.maxDepth - 1)
    return field.composite typeName subFields

end Catalog

end Aggregation
