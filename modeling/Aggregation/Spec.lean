import Aggregation.Stage.Codec
import Aggregation.Propagation

namespace Aggregation

/-! The aggregation as it is saved: where its records come from, its pipeline, and
how a chart is to show its output.  `AggregationSpec.validate` lists what keeps it
from being saved, as far as that can be told without the fields. -/

/-- The output fields that a chart's axes show. -/
structure Mapping where
  category : String := ""
  field : String := ""
  series : Option String := none
deriving DecidableEq, Repr

inductive Mapping.Entry where
  | category
  | field
  | series
deriving DecidableEq, Repr

namespace Mapping

def Entry.name : Entry → String
  | category => "category"
  | field => "field"
  | series => "series"

/-- Whether a chart cannot do without an entry. -/
def Entry.isRequired : Entry → Bool
  | series => false
  | _ => true

def entries (widget : String) : List Entry :=
  [.category, .field] ++
    if widget == "bar" || widget == "column" || widget == "line" then [.series] else []

def value? (mapping : Mapping) : Entry → Option String
  | .category => some mapping.category
  | .field => some mapping.field
  | .series => mapping.series

/-- Whether an entry has a value that is not blank. -/
def isFilled (mapping : Mapping) (entry : Entry) : Bool :=
  (mapping.value? entry).any fun value => !Text.isBlankText value

def toJson (mapping : Mapping) : Json :=
  .object ([("category", .string mapping.category), ("field", .string mapping.field)] ++
    Json.entryOf "series" .string mapping.series)

def keys : List String := ["category", "field", "series"]

def ofJson? (tree : Json) : Option Mapping := do
  guard (tree.isRecord keys)
  let category ← Json.defaulted "" Json.text? (tree.member? 0 "category")
  let field ← Json.defaulted "" Json.text? (tree.member? 1 "field")
  let series ← Json.optional Json.text? (tree.member? 2 "series")
  return ⟨category, field, series⟩

end Mapping

structure AggregationSpec where
  id : Option String := none
  dataSourceId : String := ""
  sourceFields : List String := []
  pipeline : List Stage := []
  mapping : Mapping := {}

structure SpecIssues where
  spec : List ValidationError := []
  stages : List Diagnostic := []
deriving DecidableEq, Repr

namespace SpecIssues

def isEmpty (issues : SpecIssues) : Bool := issues.spec.isEmpty && issues.stages.isEmpty

/-- All issues in one line. -/
def text (issues : SpecIssues) : String :=
  "; ".intercalate (issues.spec.map (·.message) ++
    issues.stages.map fun d => "stage " ++ toString d.stage ++ ": " ++ d.issue.message)

end SpecIssues

namespace AggregationSpec

/-- Equality of specs; the values of filter rules are compared by value. -/
def sameValue (a b : AggregationSpec) : Bool :=
  a.id == b.id && a.dataSourceId == b.dataSourceId && a.sourceFields == b.sourceFields &&
    a.pipeline == b.pipeline && a.mapping == b.mapping

instance : BEq AggregationSpec := ⟨sameValue⟩

/-- What the forms of a pipeline's stages lack, stage by stage. -/
def formDiagnostics (pipeline : List Stage) : List Diagnostic :=
  pipeline.zipIdx.flatMap fun (stage, index) =>
    stage.validate.map fun error => ⟨index, .validation error⟩

def mappingErrors (mapping : Mapping) (widget : String) : List ValidationError :=
  (Mapping.entries widget).filterMap fun entry =>
    if entry.isRequired && !mapping.isFilled entry then
      some (.missingValue ("mapping." ++ entry.name))
    else none

def issues (spec : AggregationSpec) (widget : String) : SpecIssues where
  spec :=
    (if Text.isBlankText spec.dataSourceId then [.missingValue "dataSourceId"] else []) ++
    (if spec.sourceFields.isEmpty then [.missingValue "sourceFields"] else []) ++
    mappingErrors spec.mapping widget
  stages := formDiagnostics spec.pipeline

/-- Whether a spec can be saved for a widget, and if not, why. -/
def validate (spec : AggregationSpec) (widget : String) : Except SpecIssues Unit :=
  let issues := spec.issues widget
  if issues.isEmpty then .ok () else .error issues

def toJson (spec : AggregationSpec) : Json :=
  .object (Json.entryOf "id" .string spec.id ++
    [("dataSourceId", .string spec.dataSourceId),
      ("sourceFields", Json.strings spec.sourceFields),
      ("pipeline", Stage.listToJson spec.pipeline),
      ("mapping", spec.mapping.toJson)])

def keys : List String := ["id", "dataSourceId", "sourceFields", "pipeline", "mapping"]

def ofJson? (tree : Json) : Option AggregationSpec := do
  guard (tree.isRecord keys)
  let id ← Json.optional Json.text? (tree.member? 0 "id")
  let dataSourceId ← Json.required Json.text? (tree.member? 1 "dataSourceId")
  let sourceFields ← Json.defaulted [] (Json.list? Json.text?) (tree.member? 2 "sourceFields")
  let pipeline ← Json.defaulted [] Stage.listOfJson? (tree.member? 3 "pipeline")
  let mapping ← Json.defaulted {} Mapping.ofJson? (tree.member? 4 "mapping")
  return ⟨id, dataSourceId, sourceFields, pipeline, mapping⟩

end AggregationSpec

end Aggregation
