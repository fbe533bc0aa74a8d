import Aggregation.Resource
import Aggregation.Spec

namespace Aggregation

/-! The pipeline editor.

An editor holds the initial fields, the filter fields and the pipeline being
edited, and everything that follows from them.  `Editor.rebuild` computes what
follows; every operation that changes one of the three is a rebuild, and every
other leaves the editor as it is.
-/

structure Editor where
  initialFields : List Field
  filterFields : List Field
  pipeline : List Stage
  /-- The fields each stage's form may refer to, and the pipeline's outcome. -/
  stageFields : StageFields
  /-- What the forms lack and what propagation noticed, in the order of stages. -/
  diagnostics : List Diagnostic
  /-- Flaws of the initial and the filter fields themselves. -/
  fieldIssues : List SchemaError

namespace Editor

/-- Diagnostics in the order of stages; those of one stage keep their order. -/
def inStageOrder (diagnostics : List Diagnostic) : List Diagnostic :=
  diagnostics.mergeSort fun a b => a.stage ≤ b.stage

/-- The editor over the given fields and pipeline, all else computed. -/
def rebuild (initialFields filterFields : List Field) (pipeline : List Stage) : Editor :=
  let stageFields := fieldsPerStage initialFields filterFields pipeline
  { initialFields, filterFields, pipeline, stageFields
    diagnostics := inStageOrder
      (AggregationSpec.formDiagnostics pipeline ++ stageFields.output.diagnostics)
    fieldIssues := (initialFields ++ filterFields).filterMap Field.flaw? }

/-- An editor without filter fields. -/
def new (initialFields : List Field) (pipeline : List Stage) : Editor :=
  rebuild initialFields [] pipeline

/-- An editor over the fields that a spec selects from its resource. -/
def openSpec (source : MetadataSource) (spec : AggregationSpec) : Except EngineError Editor := do
  let fields ← source.loadSourceFields spec.dataSourceId spec.sourceFields
  return new fields spec.pipeline

/-- Sets the initial fields; the flag says whether that changed anything. -/
def setInitialFields (editor : Editor) (fields : List Field) : Bool × Editor :=
  if editor.initialFields = fields then (false, editor)
  else (true, rebuild fields editor.filterFields editor.pipeline)

def setFilterFields (editor : Editor) (fields : List Field) : Bool × Editor :=
  if editor.filterFields = fields then (false, editor)
  else (true, rebuild editor.initialFields fields editor.pipeline)

def withFilterFields (editor : Editor) (fields : List Field) : Editor :=
  (editor.setFilterFields fields).2

def withPipeline (editor : Editor) (pipeline : List Stage) : Editor :=
  rebuild editor.initialFields editor.filterFields pipeline

def setPipeline (editor : Editor) (pipeline : List Stage) : Bool × Editor :=
  if editor.pipeline == pipeline then (false, editor) else (true, editor.withPipeline pipeline)

/-- Adds a stage with a blank form at the end, and gives its index. -/
def addStage (editor : Editor) (kind : Stage.Kind) : Nat × Editor :=
  (editor.pipeline.length, editor.withPipeline (editor.pipeline ++ [.blank kind]))

def outOfBounds (editor : Editor) (index : Nat) : ValidationError :=
  .stageOutOfBounds index editor.pipeline.length

/-- Takes the stage at `index` out of the pipeline. -/
def deleteStage (editor : Editor) (index : Nat) : Except ValidationError Stage × Editor :=
  match editor.pipeline[index]? with
  | some stage => (.ok stage, editor.withPipeline (editor.pipeline.eraseIdx index))
  | none => (.error (editor.outOfBounds index), editor)

/-- Moves the stage at `source` so that it ends up at `target`. -/
def moveStage (editor : Editor) (source target : Nat) : Except ValidationError Unit × Editor :=
  match editor.pipeline[source]? with
  | none => (.error (editor.outOfBounds source), editor)
  | some stage =>
    if editor.pipeline.length ≤ target then (.error (editor.outOfBounds target), editor)
    else if source = target then (.ok (), editor)
    else (.ok (),
      editor.withPipeline ((editor.pipeline.eraseIdx source).insertIdx target stage))

/-- Replaces the stage at `index`; the flag says whether that changed anything. -/
def updateStage (editor : Editor) (index : Nat) (stage : Stage) :
    Except ValidationError Bool × Editor :=
  match editor.pipeline[index]? with
  | none => (.error (editor.outOfBounds index), editor)
  | some current =>
    if current == stage then (.ok false, editor)
    else (.ok true, editor.withPipeline (editor.pipeline.set index stage))

/-- The fields that the form of a stage may refer to. -/
def fieldsFor? (editor : Editor) (index : Nat) : Option (List Field) :=
  editor.stageFields.perStage[index]?

def output (editor : Editor) : Propagation := editor.stageFields.output

/-- The fields that the whole pipeline leaves. -/
def outputFields (editor : Editor) : List Field := editor.output.fields

def diagnosticsFor (editor : Editor) (index : Nat) : List StageIssue :=
  (editor.diagnostics.filter (·.stage == index)).map (·.issue)

/-- Whether the fields are well formed and nothing blocks the pipeline. -/
def isValid (editor : Editor) : Bool :=
  editor.fieldIssues.isEmpty && !editor.diagnostics.any (·.issue.isBlocking)

def applyTo (editor : Editor) (spec : AggregationSpec) : AggregationSpec :=
  { spec with pipeline := editor.pipeline }

end Editor

end Aggregation
