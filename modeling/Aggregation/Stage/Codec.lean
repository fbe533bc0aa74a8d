import Aggregation.Json.Record
import Aggregation.Stage.Basic

namespace Aggregation

/-! Stages in JSON: `{"type": .., "form": ..}`.

A part of a filter is a group if it reads as one, else a rule.  To try both,
the part is first read whole, so nothing in it may be unreadable; the same holds
of a form that stands before its type.
-/

namespace SortOrder

def toJson (order : SortOrder) : Json := .string order.name

def ofJson? : Json → Option SortOrder := Json.variant? ofName?

end SortOrder

namespace Stage.Kind

def toJson (kind : Stage.Kind) : Json := .string kind.name

def ofJson? : Json → Option Stage.Kind := Json.variant? ofName?

end Stage.Kind

namespace Expression

def toJson (expression : Expression) : Json :=
  .object [("operator", .string expression.operator), ("field", .string expression.field)]

def keys : List String := ["operator", "field"]

def ofJson? (tree : Json) : Option Expression := do
  guard (tree.isRecord keys)
  let operator ← Json.defaulted "" Json.text? (tree.member? 0 "operator")
  let field ← Json.defaulted "" Json.text? (tree.member? 1 "field")
  return ⟨operator, field⟩

end Expression

namespace GroupByRule

def toJson (rule : GroupByRule) : Json :=
  .object (("field", .string rule.field) ::
    Json.entryOf "expression" Expression.toJson rule.expression)

def keys : List String := ["field", "expression"]

def ofJson? (tree : Json) : Option GroupByRule := do
  guard (tree.isRecord keys)
  let field ← Json.defaulted "" Json.text? (tree.member? 0 "field")
  let expression ← Json.optional Expression.ofJson? (tree.member? 1 "expression")
  return ⟨field, expression⟩

end GroupByRule

namespace ComputedField

def toJson (computed : ComputedField) : Json :=
  .object [("name", .string computed.name), ("expression", computed.expression.toJson)]

def keys : List String := ["name", "expression"]

def ofJson? (tree : Json) : Option ComputedField := do
  guard (tree.isRecord keys)
  let name ← Json.defaulted "" Json.text? (tree.member? 0 "name")
  let expression ← Json.defaulted {} Expression.ofJson? (tree.member? 1 "expression")
  return ⟨name, expression⟩

end ComputedField

namespace Filter

def Logic.toJson (logic : Logic) : Json := .string logic.name

/-- With `emptyToo`, an empty object may stand for the contents that a variant
does not have. -/
def Logic.ofJson? (emptyToo : Bool) (tree : Json) : Option Logic :=
  (Json.variantName? emptyToo tree).bind Logic.ofName?

def Rule.toJson (rule : Rule) : Json :=
  .object (("field", .string rule.field) :: ("operator", .string rule.operator) ::
    Json.entryOf "value" id rule.value)

def Rule.keys : List String := ["field", "operator", "value"]

def Rule.ofJson? (tree : Json) : Option Rule := do
  guard (tree.isRecord Rule.keys)
  let field ← Json.defaulted "" Json.text? (tree.member? 0 "field")
  let operator ← Json.defaulted "" Json.text? (tree.member? 1 "operator")
  let value ← Json.optional Json.value? (tree.member? 2 "value")
  return ⟨field, operator, value⟩

mutual

def Node.toJson : Node → Json
  | .group logic filters =>
    .object [("logic", logic.toJson), ("filters", .array (Node.allToJson filters))]
  | .rule r => r.toJson

def Node.allToJson : List Node → List Json
  | [] => []
  | node :: rest => Node.toJson node :: Node.allToJson rest

end

def Group.toJson (group : Group) : Json :=
  .object [("logic", group.logic.toJson), ("filters", .array (Node.allToJson group.filters))]

def Group.keys : List String := ["logic", "filters"]

/-- The logic of a group, and its parts as they are written. -/
def Group.parts? (emptyToo : Bool) (tree : Json) : Option Logic :=
  if tree.isRecord Group.keys then
    Json.defaulted .and (Logic.ofJson? emptyToo) (tree.member? 0 "logic")
  else none

mutual

/-- Reads a part of a filter, all of which is readable. -/
def Node.ofTree? (tree : Json) : Option Node :=
  let asGroup := match Group.parts? false tree with
    | some logic => match _ : tree.member? 1 "filters" with
      | some (.array items) => (Node.allOfTrees? items).map fun nodes => Node.group logic nodes
      | _ => none
    | none => none
  match asGroup with
  | some node => some node
  | none => (Rule.ofJson? tree).map .rule
termination_by sizeOf tree
decreasing_by
  have := Json.sizeOf_member_lt ‹tree.member? 1 "filters" = some (.array items)›
  simp at this
  omega

def Node.allOfTrees? : List Json → Option (List Node)
  | [] => some []
  | item :: rest => do
    let node ← Node.ofTree? item
    let nodes ← Node.allOfTrees? rest
    return node :: nodes
termination_by items => sizeOf items

end

def Node.ofJson? (tree : Json) : Option Node :=
  if tree.readable then Node.ofTree? tree else none

def Group.ofJson? (emptyToo : Bool) (tree : Json) : Option Group := do
  let logic ← Group.parts? emptyToo tree
  let filters ← Json.required (Json.list? Node.ofJson?) (tree.member? 1 "filters")
  return ⟨logic, filters⟩

end Filter

namespace GroupForm

def toJson (form : GroupForm) : Json :=
  .object [("groupBy", .array (form.groupBy.map GroupByRule.toJson)),
    ("addFields", .array (form.addFields.map ComputedField.toJson))]

def keys : List String := ["groupBy", "addFields"]

def ofJson? (tree : Json) : Option GroupForm := do
  guard (tree.isRecord keys)
  let groupBy ← Json.defaulted [] (Json.list? GroupByRule.ofJson?) (tree.member? 0 "groupBy")
  let addFields ← Json.defaulted [] (Json.list? ComputedField.ofJson?) (tree.member? 1 "addFields")
  return ⟨groupBy, addFields⟩

end GroupForm

namespace Stage

def formToJson : Stage → Json
  | filter whole => whole.toJson
  | sort field order => .object [("field", .string field), ("order", order.toJson)]
  | group form => form.toJson
  | addFields entries => .array (entries.map ComputedField.toJson)
  | unwind field => .object [("field", .string field)]
  | custom raw => .object [("raw", .string raw)]

def toJson (stage : Stage) : Json :=
  .object [("type", stage.kind.toJson), ("form", stage.formToJson)]

def sortOfJson? (emptyToo : Bool) (form : Json) : Option Stage := do
  guard (form.isRecord ["field", "order"])
  let field ← Json.defaulted "" Json.text? (form.member? 0 "field")
  let order ← Json.defaulted .asc
    (fun tree => (Json.variantName? emptyToo tree).bind SortOrder.ofName?) (form.member? 1 "order")
  return sort field order

/-- Reads the one member of a form. -/
def soleText? (key : String) (form : Json) : Option String := do
  guard (form.isRecord [key])
  Json.defaulted "" Json.text? (form.member? 0 key)

def formOfJson? (emptyToo : Bool) (kind : Kind) (form : Json) : Option Stage :=
  match kind with
  | .filter => (Filter.Group.ofJson? emptyToo form).map filter
  | .sort => sortOfJson? emptyToo form
  | .group => (GroupForm.ofJson? form).map group
  | .addFields => (Json.list? ComputedField.ofJson? form).map addFields
  | .unwind => (soleText? "field" form).map unwind
  | .custom => (soleText? "raw" form).map custom

def keys : List String := ["type", "form"]

/-- Whether the form stands before the type, and has to be read before its kind
is known. -/
def isFormFirst : Json → Bool
  | .object entries => (entries.find? fun (key, _) => keys.contains key).any (·.1 == "form")
  | _ => false

def ofJson? (tree : Json) : Option Stage := do
  guard (tree.isRecord keys)
  let kind ← Json.required Kind.ofJson? (tree.member? 0 "type")
  let form ← tree.member? 1 "form"
  guard (!isFormFirst tree || form.readable)
  formOfJson? (isFormFirst tree) kind form

def listToJson (stages : List Stage) : Json := .array (stages.map toJson)

def listOfJson? : Json → Option (List Stage) := Json.list? ofJson?

end Stage

end Aggregation
