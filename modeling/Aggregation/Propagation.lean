import Aggregation.Stage.Basic

namespace Aggregation

/-! Fields along a pipeline.

`Propagation` is what is known after some stages: the fields that exist, what
was noticed so far, and whether a custom stage was passed, after which any name
may exist.  Three functions say what one stage does to it: the references that
lead nowhere (`Stage.unresolved`), what else is worth noting (`Stage.notes`), and
the fields it leaves (`Stage.output`).  All of them look only at the fields before
the stage, which have distinct names.

`fieldsPerStage` computes in one pass the fields offered to every stage's form.
-/

/-- Something worth showing on a stage's form. -/
inductive StageIssue where
  | schema (error : SchemaError)
  | validation (error : ValidationError)
  | warning (warning : Warning)
deriving DecidableEq, Repr

namespace StageIssue

/-- All but warnings stand in the way of saving and running. -/
def isBlocking : StageIssue → Bool
  | warning _ => false
  | _ => true

def message : StageIssue → String
  | schema error => error.message
  | validation error => error.message
  | warning w => w.message

end StageIssue

structure Diagnostic where
  stage : Nat
  issue : StageIssue
deriving DecidableEq, Repr

namespace GroupByRule

/-- The expression, if it has an operator. -/
def computation? (rule : GroupByRule) : Option Expression :=
  rule.expression.filter fun expression => !expression.operator.isEmpty

/-- The field that grouping by a rule leaves: one with the computed type, or the
field at its path under that path as its name.  After a custom stage an
unknown path leaves a scalar of unknown type. -/
def output? (rule : GroupByRule) (available : List Field) (unchecked : Bool) : Option Field :=
  if rule.field.isEmpty then none
  else match rule.computation? with
    | some expression => some (.makeScalar rule.field (expression.resultType available))
    | none => match Field.resolve? available rule.field with
      | some field => some { field with name := rule.field }
      | none => if unchecked then some (.makeScalar rule.field "Unknown") else none

end GroupByRule

namespace ComputedField

/-- The computed field, which needs a name. -/
def output? (computed : ComputedField) (available : List Field) : Option Field :=
  if computed.name.isEmpty then none
  else some (.makeScalar computed.name (computed.expression.resultType available))

end ComputedField

namespace Stage

/-- Whether a reference to a path leads nowhere; an empty one is no reference. -/
def isDangling (available : List Field) (path : String) : Bool :=
  !path.isEmpty && (Field.resolve? available path).isNone

def isDanglingName (available : List Field) (name : String) : Bool :=
  !name.isEmpty && (Field.find? available name).isNone

/-- The paths a stage refers to, in the order in which they are checked. -/
def pathReferences : Stage → List String
  | filter whole => whole.references
  | group form => form.groupBy.map (·.field) ++ form.addFields.map (·.expression.field)
  | addFields entries => entries.map (·.expression.field)
  | _ => []

def nameReferences : Stage → List String
  | sort field _ => [field]
  | unwind field => [field]
  | _ => []

def unresolved (stage : Stage) (available : List Field) : List String :=
  stage.pathReferences.filter (isDangling available) ++
    stage.nameReferences.filter (isDanglingName available)

/-- Children that unwinding `target` drops because another field has their name. -/
def droppedChildren (available : List Field) (target : Field) : List Field :=
  target.children.filter fun child =>
    child.name != target.name && (Field.find? available child.name).isSome

/-- The fields that take the place of a list when it is unwound: its children but
for the dropped ones, or the element itself if it has no fields. -/
def unwound (available : List Field) (target : Field) : List Field :=
  match target.children with
  | [] => [.makeScalar target.name target.typeName]
  | children => children.filter fun child =>
      child.name == target.name || (Field.find? available child.name).isNone

def unwindOutput (available : List Field) (name : String) : List Field :=
  match Field.find? available name with
  | some target =>
    if target.kind = .list && target.flaw?.isNone then
      Field.distinct (available.flatMap fun field =>
        if field.name = name then unwound available target else [field])
    else available
  | none => available

def output (stage : Stage) (available : List Field) (unchecked : Bool) : List Field :=
  match stage with
  | group form => Field.distinct
      (form.groupBy.filterMap (·.output? available unchecked) ++
        form.addFields.filterMap (·.output? available))
  | addFields entries => (entries.filterMap (·.output? available)).foldl Field.put available
  | unwind name => if name.isEmpty then available else unwindOutput available name
  | _ => available

def sortNotes (available : List Field) (name : String) : List StageIssue :=
  match Field.find? available name with
  | some field => if field.isScalar then [] else [.validation (.sortFieldNotScalar name)]
  | none => []

def unwindNotes (available : List Field) (name : String) : List StageIssue :=
  match Field.find? available name with
  | none => []
  | some target =>
    if target.kind ≠ .list then [.warning (.unwindNotList name target.kind.name)]
    else match target.flaw? with
      | some flaw => [.schema flaw]
      | none => (droppedChildren available target).map fun child =>
          .warning (.unwindNameCollision name child.name)

/-- What is worth noting about a stage, its unresolved references apart. -/
def notes (stage : Stage) (available : List Field) : List StageIssue :=
  match stage with
  | sort name _ => if name.isEmpty then [] else sortNotes available name
  | unwind name => if name.isEmpty then [] else unwindNotes available name
  | custom _ => [.warning .uncheckedCustomStage]
  | _ => []

def isCustom : Stage → Bool
  | custom _ => true
  | _ => false

end Stage

structure Propagation where
  fields : List Field := []
  diagnostics : List Diagnostic := []
  /-- Set once a custom stage has been passed. -/
  unchecked : Bool := false
deriving DecidableEq

namespace Propagation

/-- Before the first stage. -/
def start (fields : List Field) : Propagation := { fields := Field.distinct fields }

/-- The issues that a stage raises where `p` holds before it. -/
def issues (p : Propagation) (stage : Stage) : List StageIssue :=
  (if p.unchecked then []
    else (stage.unresolved p.fields).map fun path => .schema (.unknownField path)) ++
  stage.notes p.fields

/-- What holds after a stage, whose issues are recorded under `index`. -/
def apply (p : Propagation) (index : Nat) (stage : Stage) : Propagation where
  fields := stage.output p.fields p.unchecked
  diagnostics := p.diagnostics ++ (p.issues stage).map (⟨index, ·⟩)
  unchecked := p.unchecked || stage.isCustom

/-- Applies stages in turn, the first of them at position `index`. -/
def applyAll (p : Propagation) (index : Nat) : List Stage → Propagation
  | [] => p
  | stage :: rest => (p.apply index stage).applyAll (index + 1) rest

def warnings (p : Propagation) : List Warning :=
  p.diagnostics.filterMap fun diagnostic =>
    match diagnostic.issue with
    | .warning w => some w
    | _ => none

end Propagation

/-- What is known after a whole pipeline. -/
def propagate (fields : List Field) (stages : List Stage) : Propagation :=
  (Propagation.start fields).applyAll 0 stages

/-- The fields after a whole pipeline. -/
def fieldsAfter (fields : List Field) (stages : List Stage) : List Field :=
  (propagate fields stages).fields

/-- The initial fields with filter fields laid over them by name. -/
def overlayFields (initial filterFields : List Field) : List Field :=
  initial.map fun field => (Field.find? filterFields field.name).getD field

/-- The fields offered to each stage's form, and what is known after them all. -/
structure StageFields where
  perStage : List (List Field) := []
  output : Propagation := {}
deriving DecidableEq

/-- The fields offered to a stage where `base` holds before it: a filter is
offered the overlay's, if there is one, and a sort scalars only. -/
def Stage.offered (stage : Stage) (base : Propagation) (overlay : Option Propagation) :
    List Field :=
  match stage with
  | .filter _ => (overlay.getD base).fields
  | .sort .. => base.fields.filter (·.isScalar)
  | _ => base.fields

/-- One pass over the stages from position `index` on, with the overlay in step. -/
def StageFields.walk (base : Propagation) (overlay : Option Propagation) (index : Nat) :
    List Stage → StageFields
  | [] => ⟨[], base⟩
  | stage :: rest =>
    let later := walk (base.apply index stage) (overlay.map (·.apply index stage)) (index + 1) rest
    ⟨stage.offered base overlay :: later.perStage, later.output⟩

def fieldsPerStage (initial filterFields : List Field) (pipeline : List Stage) : StageFields :=
  let overlay :=
    if filterFields.isEmpty then none
    else some (Propagation.start (overlayFields initial filterFields))
  StageFields.walk (.start initial) overlay 0 pipeline

end Aggregation
