import Aggregation.Text.Blank
import Aggregation.Text.Split
import Aggregation.Error

namespace Aggregation

/-! Fields of a resource.

A field has a name, a kind, the name of its type, and perhaps sub-fields.
`Field.validate` says when the four fit together; nothing else enforces it, so
that a malformed field can be shown and reported.
-/

inductive Field.Kind where
  | scalar
  | object
  | list
deriving DecidableEq, Repr

namespace Field.Kind

def name : Field.Kind → String
  | scalar => "SCALAR"
  | object => "OBJECT"
  | list => "LIST"

def ofName? : String → Option Field.Kind
  | "SCALAR" => some scalar
  | "OBJECT" => some object
  | "LIST" => some list
  | _ => none

end Field.Kind

structure Field where
  name : String
  kind : Field.Kind
  typeName : String
  subFields : Option (List Field)

namespace Field

instance : Inhabited Field := ⟨⟨"", .scalar, "", none⟩⟩

mutual

def decEq : (a b : Field) → Decidable (a = b)
  | ⟨n, k, t, none⟩, ⟨n', k', t', none⟩ =>
    if h : n = n' ∧ k = k' ∧ t = t' then
      .isTrue (by obtain ⟨rfl, rfl, rfl⟩ := h; rfl)
    else .isFalse (by intro same; cases same; exact h ⟨rfl, rfl, rfl⟩)
  | ⟨n, k, t, some fields⟩, ⟨n', k', t', some fields'⟩ =>
    if h : n = n' ∧ k = k' ∧ t = t' then
      match decEqList fields fields' with
      | .isTrue same => .isTrue (by obtain ⟨rfl, rfl, rfl⟩ := h; rw [same])
      | .isFalse differ => .isFalse (by intro same; cases same; exact differ rfl)
    else .isFalse (by intro same; cases same; exact h ⟨rfl, rfl, rfl⟩)
  | ⟨_, _, _, none⟩, ⟨_, _, _, some _⟩ => .isFalse (by intro same; cases same)
  | ⟨_, _, _, some _⟩, ⟨_, _, _, none⟩ => .isFalse (by intro same; cases same)

def decEqList : (as bs : List Field) → Decidable (as = bs)
  | [], [] => .isTrue rfl
  | a :: as, b :: bs =>
    match decEq a b, decEqList as bs with
    | .isTrue first, .isTrue rest => .isTrue (by rw [first, rest])
    | .isFalse differ, _ => .isFalse (by intro same; cases same; exact differ rfl)
    | _, .isFalse differ => .isFalse (by intro same; cases same; exact differ rfl)
  | [], _ :: _ => .isFalse (by intro same; cases same)
  | _ :: _, [] => .isFalse (by intro same; cases same)

end

instance : DecidableEq Field := decEq

def makeScalar (name typeName : String) : Field := ⟨name, .scalar, typeName, none⟩

def makeObject (name typeName : String) (subFields : List Field) : Field :=
  ⟨name, .object, typeName, some subFields⟩

def makeList (name typeName : String) (subFields : List Field) : Field :=
  ⟨name, .list, typeName, some subFields⟩

def isScalar (field : Field) : Bool := field.kind == .scalar

/-- The sub-fields, none if there can be none. -/
def children (field : Field) : List Field := field.subFields.getD []

mutual

/-- Checks that names are not blank and that exactly objects and lists carry
sub-fields, on a field and on everything below it; the first flaw is reported. -/
def validate : Field → Except SchemaError Unit
  | ⟨name, kind, _, subFields⟩ =>
    if Text.isBlankText name then
      .error (.malformedField name "field name is empty")
    else match kind, subFields with
      | .scalar, some _ =>
        .error (.malformedField name "scalar field cannot carry sub-fields")
      | .scalar, none => .ok ()
      | kind, none =>
        .error (.malformedField name (kind.name ++ " field must carry sub-fields"))
      | _, some children => validateAll children

def validateAll : List Field → Except SchemaError Unit
  | [] => .ok ()
  | field :: rest => do
    validate field
    validateAll rest

end

/-- The flaw that `validate` reports, if any. -/
def flaw? (field : Field) : Option SchemaError :=
  match field.validate with
  | .ok () => none
  | .error flaw => some flaw

/-- The first field with this name. -/
def find? (fields : List Field) (name : String) : Option Field :=
  fields.find? (·.name == name)

def descend? : (fields : List Field) → (segments : List String) → Option Field
  | _, [] => none
  | fields, [segment] => find? fields segment
  | fields, segment :: rest => do
    let field ← find? fields segment
    descend? field.children rest

/-- The field at a dotted path, such as `tags.label`. -/
def resolve? (fields : List Field) (path : String) : Option Field :=
  descend? fields (Text.split '.' path)

def names (fields : List Field) : List String := fields.map (·.name)

/-- Puts a field in the place of the first one with its name, or at the end. -/
def put (fields : List Field) (field : Field) : List Field :=
  match fields with
  | [] => [field]
  | other :: rest => if other.name = field.name then field :: rest else other :: put rest field

/-- One field for each name, at the name's first position, with the last schema
given for it. -/
def distinct (fields : List Field) : List Field := fields.foldl put []

end Field

end Aggregation
