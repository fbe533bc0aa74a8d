import Aggregation.AsOf
import Aggregation.Spec

namespace Aggregation

/-! Requests for one page of aggregated records.

`AggregationRequest.build` assembles the request for what a grid asks for, and
refuses page sizes of zero and sorts by anything but a top-level scalar of the
output.
-/

/-- One of the grid's columns to sort by; without a direction it does not count. -/
structure SortDescriptor where
  field : String
  dir : Option SortOrder
deriving DecidableEq, Repr

namespace SortDescriptor

def toJson (sort : SortDescriptor) : Json :=
  .object (("field", .string sort.field) :: Json.entryOf "dir" SortOrder.toJson sort.dir)

def keys : List String := ["field", "dir"]

def ofJson? (tree : Json) : Option SortDescriptor := do
  guard (tree.isRecord keys)
  let field ← Json.required Json.text? (tree.member? 0 "field")
  let dir ← Json.optional SortOrder.ofJson? (tree.member? 1 "dir")
  return ⟨field, dir⟩

/-- Reads `field:order`; without an order it is ascending. -/
def parse (raw : String) : Except ValidationError SortDescriptor :=
  let (field, order) := match Text.splitOnce ':' raw.toList with
    | some (field, order) =>
      (String.ofList (Text.trimChars field), String.ofList (Text.trimChars order))
    | none => (Text.trim raw, "asc")
  if field.isEmpty then .error (.missingValue "sort.field")
  else match SortOrder.ofName? (Text.lowerAscii order) with
    | some dir => .ok ⟨field, some dir⟩
    | none => .error (.invalidSortOrder order)

end SortDescriptor

/-- All that a grid knows when it asks for a page. -/
structure GridQuery where
  dataSourceId : String := ""
  aggregationId : String := ""
  pageSize : Nat := 0
  skip : Nat := 0
  sort : List SortDescriptor := []
  contextFilters : Option Json := none
  asOf : Option String := none

namespace GridQuery

/-- The first column with a direction. -/
def activeSort? (query : GridQuery) : Option (String × SortOrder) :=
  query.sort.findSome? fun sort => sort.dir.map fun dir => (sort.field, dir)

end GridQuery

structure AggregationRequest where
  dataSourceId : String
  aggregationId : String
  pipeline : List Stage
  sourceFields : List String
  first : Nat
  skip : Nat
  sortField : Option String
  sortOrder : Option SortOrder
  contextFilters : Option Json
  pointInTime : Option String

namespace AggregationRequest

/-- Whether `field` can be sorted by: a top-level scalar of the output. -/
def checkSortField (outputFields : List Field) (field : String) : Except ValidationError Unit :=
  match Field.find? outputFields field with
  | none => .error (.sortFieldMissing field)
  | some found => if found.isScalar then .ok () else .error (.sortFieldNotScalar field)

def checkSort (outputFields : List Field) : Option (String × SortOrder) →
    Except ValidationError Unit
  | none => .ok ()
  | some (field, _) => checkSortField outputFields field

/-- The request for a query, whether or not it can be sorted as it says. -/
def assemble (spec : AggregationSpec) (dashboard : Json) (query : GridQuery) :
    AggregationRequest where
  dataSourceId := query.dataSourceId
  aggregationId := query.aggregationId
  pipeline := spec.pipeline
  sourceFields := spec.sourceFields
  first := query.pageSize
  skip := query.skip
  sortField := query.activeSort?.map (·.1)
  sortOrder := query.activeSort?.map (·.2)
  contextFilters := query.contextFilters.map (Dashboard.inject dashboard)
  pointInTime := query.asOf.bind fun raw => AsOf.resolve? raw dashboard

/-- The request for a query on the aggregation `spec`, whose pipeline leaves
`outputFields`. -/
def build (spec : AggregationSpec) (outputFields : List Field) (dashboard : Json)
    (query : GridQuery) : Except ValidationError AggregationRequest :=
  if query.pageSize = 0 then .error .invalidPageSize
  else match checkSort outputFields query.activeSort? with
    | .ok () => .ok (assemble spec dashboard query)
    | .error error => .error error

def toJson (request : AggregationRequest) : Json :=
  .object ([("dataSourceId", .string request.dataSourceId),
    ("aggregationId", .string request.aggregationId),
    ("pipeline", Stage.listToJson request.pipeline),
    ("sourceFields", Json.strings request.sourceFields),
    ("first", .ofNat request.first),
    ("skip", .ofNat request.skip)] ++
    Json.entryOf "sortField" .string request.sortField ++
    Json.entryOf "sortOrder" SortOrder.toJson request.sortOrder ++
    Json.entryOf "contextFilters" id request.contextFilters ++
    Json.entryOf "at" .string request.pointInTime)

def keys : List String :=
  ["dataSourceId", "aggregationId", "pipeline", "sourceFields", "first", "skip", "sortField",
    "sortOrder", "contextFilters", "at"]

def ofJson? (tree : Json) : Option AggregationRequest := do
  guard (tree.isRecord keys)
  let dataSourceId ← Json.required Json.text? (tree.member? 0 "dataSourceId")
  let aggregationId ← Json.required Json.text? (tree.member? 1 "aggregationId")
  let pipeline ← Json.required Stage.listOfJson? (tree.member? 2 "pipeline")
  let sourceFields ← Json.required (Json.list? Json.text?) (tree.member? 3 "sourceFields")
  let first ← Json.required Json.count? (tree.member? 4 "first")
  let skip ← Json.required Json.count? (tree.member? 5 "skip")
  let sortField ← Json.optional Json.text? (tree.member? 6 "sortField")
  let sortOrder ← Json.optional SortOrder.ofJson? (tree.member? 7 "sortOrder")
  let contextFilters ← Json.optional Json.value? (tree.member? 8 "contextFilters")
  let pointInTime ← Json.optional Json.text? (tree.member? 9 "at")
  return ⟨dataSourceId, aggregationId, pipeline, sourceFields, first, skip, sortField, sortOrder,
    contextFilters, pointInTime⟩

def queryVariables (request : AggregationRequest) : Json :=
  .object [("resource", .string request.dataSourceId),
    ("aggregation", .string request.aggregationId),
    ("first", .ofNat request.first),
    ("skip", .ofNat request.skip),
    ("sortField", Json.orNull .string request.sortField),
    ("sortOrder", Json.orNull SortOrder.toJson request.sortOrder),
    ("contextFilters", Json.orNull id request.contextFilters),
    ("at", Json.orNull .string request.pointInTime)]

end AggregationRequest

/-- One window of aggregated records, and how many there are in all. -/
structure AggregationPage where
  items : List Json := []
  totalCount : Nat := 0

namespace AggregationPage

def toJson (page : AggregationPage) : Json :=
  .object [("items", .array page.items), ("totalCount", .ofNat page.totalCount)]

def keys : List String := ["items", "totalCount"]

def ofJson? (tree : Json) : Option AggregationPage := do
  guard (tree.isRecord keys)
  let items ← Json.defaulted [] (Json.list? Json.value?) (tree.member? 0 "items")
  let totalCount ← Json.defaulted 0 Json.count? (tree.member? 1 "totalCount")
  return ⟨items, totalCount⟩

end AggregationPage

end Aggregation
