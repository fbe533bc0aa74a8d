import Aggregation.Decimal.Double

namespace Aggregation

/-! JSON values.

An object is a list of entries, in the order in which a text gives them or a
printer is to write them.  A *value* is in normal form: the keys of its objects
are distinct and sorted, and nothing in it is `unreadable`; `value?` brings a
tree to that form, the last of several entries with one key winning.
-/

namespace Json

/-- Whole numbers that fit 64 bits stay whole; all others are doubles, so that
`1` and `1.0` are different numbers. -/
inductive Number where
  | integer (value : Int)
  | double (value : Double)
deriving DecidableEq, Repr

def Number.sameValue : Number → Number → Bool
  | .integer a, .integer b => a == b
  | .double a, .double b => a.sameValue b
  | _, _ => false

end Json

/-- `unreadable` stands where a text has the grammar of a value that has no
value: a number too large, a string that is not a sequence of characters, or
containers nested too deeply. -/
inductive Json where
  | null
  | bool (value : Bool)
  | number (value : Json.Number)
  | string (value : String)
  | array (items : List Json)
  | object (entries : List (String × Json))
  | unreadable

namespace Json

instance : Inhabited Json := ⟨.null⟩

def ofNat (value : Nat) : Json := .number (.integer value)

mutual

/-- Equality of values: numbers compare by value, all else by shape. -/
def sameValue : Json → Json → Bool
  | .null, .null => true
  | .bool a, .bool b => a == b
  | .number a, .number b => a.sameValue b
  | .string a, .string b => a == b
  | .array a, .array b => sameItems a b
  | .object a, .object b => sameEntries a b
  | _, _ => false

def sameItems : List Json → List Json → Bool
  | [], [] => true
  | a :: as, b :: bs => sameValue a b && sameItems as bs
  | _, _ => false

def sameEntries : List (String × Json) → List (String × Json) → Bool
  | [], [] => true
  | (k, a) :: as, (l, b) :: bs => k == l && sameValue a b && sameEntries as bs
  | _, _ => false

end

instance : BEq Json := ⟨sameValue⟩

/-- Puts an entry into sorted entries, in place of one with its key. -/
def insertEntry (key : String) (value : Json) : List (String × Json) → List (String × Json)
  | [] => [(key, value)]
  | (k, v) :: rest =>
    if key < k then (key, value) :: (k, v) :: rest
    else if key = k then (key, value) :: rest
    else (k, v) :: insertEntry key value rest

/-- Sorted entries with distinct keys, later entries first. -/
def sortEntries (entries : List (String × Json)) : List (String × Json) :=
  entries.foldl (fun sorted (key, value) => insertEntry key value sorted) []

mutual

/-- The value that a tree denotes; nothing if a part of it is unreadable. -/
def value? : Json → Option Json
  | .array items => (values? items).map .array
  | .object entries => (entryValues? entries).map fun entries => .object (sortEntries entries)
  | .unreadable => none
  | scalar => some scalar

def values? : List Json → Option (List Json)
  | [] => some []
  | item :: rest => do
    let item ← value? item
    let rest ← values? rest
    return item :: rest

def entryValues? : List (String × Json) → Option (List (String × Json))
  | [] => some []
  | (key, value) :: rest => do
    let value ← value? value
    let rest ← entryValues? rest
    return (key, value) :: rest

end

/-- Whether no part of a tree is unreadable. -/
def readable (tree : Json) : Bool := tree.value?.isSome

/-- A tree without unreadable parts in normal form. -/
def normal (tree : Json) : Json := tree.value?.getD .null

def sortedObject (entries : List (String × Json)) : Json := .object (sortEntries entries)

end Json

end Aggregation
