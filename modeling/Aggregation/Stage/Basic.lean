import Aggregation.Text.Blank
import Aggregation.Text.Split
import Aggregation.Json.Reader
import Aggregation.Field.Basic

namespace Aggregation

/-! The stages of a pipeline.

A stage is one of six kinds, each with a form that the user fills in.  A form
may be incomplete: `Stage.validate` lists what is missing or wrong in it without
looking at any field, and in the order of the form.
-/

inductive Stage.Kind where
  | filter
  | sort
  | group
  | addFields
  | unwind
  | custom
deriving DecidableEq, Repr

namespace Stage.Kind

def name : Stage.Kind → String
  | filter => "filter"
  | sort => "sort"
  | group => "group"
  | addFields => "addFields"
  | unwind => "unwind"
  | custom => "custom"

def ofName? : String → Option Stage.Kind
  | "filter" => some filter
  | "sort" => some sort
  | "group" => some group
  | "addFields" => some addFields
  | "unwind" => some unwind
  | "custom" => some custom
  | _ => none

def all : List Stage.Kind := [filter, sort, group, addFields, unwind, custom]

/-- The kind whose name this is but for the case of ASCII letters; any other
name means a custom stage. -/
def ofLooseName (text : String) : Stage.Kind :=
  (all.find? fun kind => Text.lowerAscii kind.name == Text.lowerAscii text).getD custom

end Stage.Kind

inductive SortOrder where
  | asc
  | desc
deriving DecidableEq, Repr

namespace SortOrder

def name : SortOrder → String
  | asc => "asc"
  | desc => "desc"

def ofName? : String → Option SortOrder
  | "asc" => some asc
  | "desc" => some desc
  | _ => none

end SortOrder

/-- Computes one value with `operator` from the field at the path `field`. -/
structure Expression where
  operator : String := ""
  field : String := ""
deriving DecidableEq, Repr

namespace Expression

/-- Operators that pick one of the values of their field. -/
def picksValue (operator : String) : Bool :=
  operator == "min" || operator == "max" || operator == "first" || operator == "last"

/-- The type of the field itself, if it is a scalar. -/
def scalarType (available : List Field) (path : String) : String :=
  match Field.resolve? available path with
  | some field => if field.isScalar then field.typeName else "String"
  | none => "String"

def resultType (expression : Expression) (available : List Field) : String :=
  match expression.operator with
  | "count" | "year" | "month" | "week" | "day" | "dayOfWeek" | "hour" => "Int"
  | "sum" | "avg" | "add" | "subtract" | "multiply" | "divide" => "Float"
  | "date" => "Date"
  | operator =>
    if picksValue operator then scalarType available expression.field else "String"

end Expression

/-- Groups by the field at the path `field`, or by a value computed for it. -/
structure GroupByRule where
  field : String := ""
  expression : Option Expression := none
deriving DecidableEq, Repr

structure ComputedField where
  name : String := ""
  expression : Expression := {}
deriving DecidableEq, Repr

namespace Filter

inductive Logic where
  | and
  | or
deriving DecidableEq, Repr

def Logic.name : Logic → String
  | and => "and"
  | or => "or"

def Logic.ofName? : String → Option Logic
  | "and" => some .and
  | "or" => some .or
  | _ => none

structure Rule where
  field : String := ""
  operator : String := ""
  value : Option Json := none

/-- A part of a filter: a group of parts, or a rule on one field. -/
inductive Node where
  | group (logic : Logic) (filters : List Node)
  | rule (rule : Rule)

/-- The whole of a filter. -/
structure Group where
  logic : Logic := .and
  filters : List Node

def Rule.sameValue (a b : Rule) : Bool :=
  a.field == b.field && a.operator == b.operator && a.value == b.value

mutual

def Node.sameValue : Node → Node → Bool
  | .group logic filters, .group logic' filters' =>
    logic == logic' && Node.sameNodes filters filters'
  | .rule a, .rule b => a.sameValue b
  | _, _ => false

def Node.sameNodes : List Node → List Node → Bool
  | [], [] => true
  | a :: as, b :: bs => Node.sameValue a b && Node.sameNodes as bs
  | _, _ => false

end

def Group.sameValue (a b : Group) : Bool :=
  a.logic == b.logic && Node.sameNodes a.filters b.filters

instance : BEq Group := ⟨Group.sameValue⟩

mutual

/-- The paths that rules refer to, depth first; rules without one are skipped. -/
def Node.references : Node → List String
  | .group _ filters => Node.allReferences filters
  | .rule r => if r.field.isEmpty then [] else [r.field]

def Node.allReferences : List Node → List String
  | [] => []
  | node :: rest => Node.references node ++ Node.allReferences rest

end

def Group.references (group : Group) : List String := Node.allReferences group.filters

end Filter

structure GroupForm where
  groupBy : List GroupByRule := []
  addFields : List ComputedField := []
deriving DecidableEq, Repr

inductive Stage where
  | filter (group : Filter.Group)
  | sort (field : String) (order : SortOrder)
  | group (form : GroupForm)
  | addFields (entries : List ComputedField)
  | unwind (field : String)
  /-- A stage given as text, about whose outcome nothing is known. -/
  | custom (raw : String)

namespace Stage

/-- Equality of stages; the values of filter rules are compared by value. -/
def sameValue : Stage → Stage → Bool
  | filter a, filter b => a == b
  | sort field order, sort field' order' => field == field' && order == order'
  | group form, group form' => form == form'
  | addFields entries, addFields entries' => entries == entries'
  | unwind field, unwind field' => field == field'
  | custom raw, custom raw' => raw == raw'
  | _, _ => false

instance : BEq Stage := ⟨sameValue⟩

def kind : Stage → Kind
  | filter _ => .filter
  | sort .. => .sort
  | group _ => .group
  | addFields _ => .addFields
  | unwind _ => .unwind
  | custom _ => .custom

/-- A stage as it is first added to a pipeline. -/
def blank : Kind → Stage
  | .filter => filter ⟨.and, []⟩
  | .sort => sort "" .asc
  | .group => group ⟨[{}], []⟩
  | .addFields => addFields [{}]
  | .unwind => unwind ""
  | .custom => custom ""

/-- A text that must not be blank, at a place in a form. -/
def requireText (text path : String) : List ValidationError :=
  if Text.isBlankText text then [.missingValue path] else []

def indexed (list : String) (index : Nat) (member : String) : String :=
  list ++ "[" ++ toString index ++ "]." ++ member

def validateCustom (raw : String) : List ValidationError :=
  if Text.isBlankText raw then [.missingValue "raw"]
  else if (Json.read? raw).isSome then [] else [.invalidJson Json.faultText]

def validateGroup (form : GroupForm) : List ValidationError :=
  (form.groupBy.zipIdx.flatMap fun (rule, index) =>
    requireText rule.field (indexed "groupBy" index "field")) ++
  form.addFields.zipIdx.flatMap fun (computed, index) =>
    requireText computed.expression.operator (indexed "addFields" index "expression.operator")

def validateEntries (entries : List ComputedField) : List ValidationError :=
  (if entries.isEmpty then [.missingValue "fields"] else []) ++
  entries.zipIdx.flatMap fun (computed, index) =>
    requireText computed.name (indexed "" index "name") ++
      requireText computed.expression.operator (indexed "" index "expression.operator")

/-- What a form lacks, as far as the form alone tells. -/
def validate : Stage → List ValidationError
  | filter _ => []
  | sort field _ => requireText field "field"
  | group form => validateGroup form
  | addFields entries => validateEntries entries
  | unwind field => requireText field "field"
  | custom raw => validateCustom raw

end Stage

end Aggregation
