import Aggregation.Text.Numeral
import Aggregation.Json.Basic

namespace Aggregation.Json

/-! Records in JSON.

A record is written as an object, or as an array of its members in their order
with members left out at the end only.  Keys that are not the record's are
ignored, and none of its own may stand twice.  A slot is what was found for one
member: `required`, `defaulted` and `optional` say what an empty one means.
-/

def isRecord (keys : List String) : Json → Bool
  | .object entries => keys.all fun key => (entries.filter (·.1 == key)).length ≤ 1
  | .array items => items.length ≤ keys.length
  | _ => false

/-- The slot of the member at `position`, named `key`. -/
def member? (position : Nat) (key : String) : Json → Option Json
  | .object entries => entries.lookup key
  | .array items => items[position]?
  | _ => none

theorem sizeOf_lookup_lt {key : String} {entries : List (String × Json)} {value : Json}
    (found : entries.lookup key = some value) : sizeOf value < sizeOf entries := by
  induction entries with
  | nil => simp at found
  | cons entry rest ih =>
    obtain ⟨k, v⟩ := entry
    rw [List.lookup_cons] at found
    split at found
    · cases found
      simp
      omega
    · have := ih found
      simp
      omega

theorem sizeOf_member_lt {position : Nat} {key : String} {tree value : Json}
    (found : tree.member? position key = some value) : sizeOf value < sizeOf tree := by
  cases tree with
  | object entries =>
    have := sizeOf_lookup_lt (show entries.lookup key = some value from found)
    simp
    omega
  | array items =>
    have := List.sizeOf_lt_of_mem
      (List.mem_of_getElem? (show items[position]? = some value from found))
    simp
    omega
  | _ => simp [member?] at found

variable {α : Type}

/-- The member has to be there. -/
def required (read : Json → Option α) (slot : Option Json) : Option α := slot.bind read

/-- A member that is not there has a value of its own; `null` is not an absence. -/
def defaulted (absent : α) (read : Json → Option α) : Option Json → Option α
  | none => some absent
  | some tree => read tree

/-- A member that may be absent, which `null` says too. -/
def optional (read : Json → Option α) : Option Json → Option (Option α)
  | none | some .null => some none
  | some tree => (read tree).map some

def text? : Json → Option String
  | .string text => some text
  | _ => none

/-- A whole number from zero up to a limit, which is not included. -/
def natBelow? (limit : Nat) : Json → Option Nat
  | .number (.integer value) => if 0 ≤ value && value < limit then some value.toNat else none
  | _ => none

/-- A count: a whole number of 64 bits. -/
def count? : Json → Option Nat := natBelow? Text.wordLimit

def list? (read : Json → Option α) : Json → Option (List α)
  | .array items => items.mapM read
  | _ => none

/-- The name of a variant without contents: a string, or an object whose one
entry has that name and `null`.  With `emptyToo`, an empty object will do for
`null`. -/
def variantName? (emptyToo : Bool) : Json → Option String
  | .string name => some name
  | .object [(name, .null)] => some name
  | .object [(name, .object [])] => if emptyToo then some name else none
  | _ => none

def variant? (ofName? : String → Option α) (tree : Json) : Option α :=
  (variantName? false tree).bind ofName?

/-- An entry for a member that is written only when it is there. -/
def entryOf (key : String) (toJson : α → Json) : Option α → List (String × Json)
  | none => []
  | some value => [(key, toJson value)]

/-- A member that is written as `null` when it is not there. -/
def orNull (toJson : α → Json) : Option α → Json
  | none => .null
  | some value => toJson value

def strings (texts : List String) : Json := .array (texts.map .string)

end Aggregation.Json
