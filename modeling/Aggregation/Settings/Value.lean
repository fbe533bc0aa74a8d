import Aggregation.Text.Numeral
import Aggregation.Text.Split
import Aggregation.Decimal.Shortest
import Aggregation.Json.Basic

namespace Aggregation

/-! Values of settings.

A value is taken leniently where a number or a text is asked for: a number can
stand for a text and a text for a number, since some sources hold nothing but
text.
-/

inductive Settings.Value where
  | absent
  | flag (value : Bool)
  /-- A whole number that fits 64 bits with its sign. -/
  | whole (value : Int)
  | real (value : Double)
  | infinite (negative : Bool)
  | notANumber
  | text (value : String)
  | list (items : List Settings.Value)
  | table (entries : List (String × Settings.Value))

namespace Settings.Value

instance : Inhabited Settings.Value := ⟨.absent⟩

def ofNat (value : Nat) : Settings.Value := .whole value

mutual

/-- The value that a JSON value stands for.  Whole numbers that do not fit are real. -/
def ofJson : Json → Settings.Value
  | .null | .unreadable => .absent
  | .bool value => .flag value
  | .number (.integer value) =>
    if Text.signedLimit ≤ value then .real ⟨false, .ofNat value.toNat⟩ else .whole value
  | .number (.double value) => .real value
  | .string value => .text value
  | .array items => .list (ofItems items)
  | .object entries => .table (ofEntries entries)

def ofItems : List Json → List Settings.Value
  | [] => []
  | item :: rest => ofJson item :: ofItems rest

def ofEntries : List (String × Json) → List (String × Settings.Value)
  | [] => []
  | (name, value) :: rest => (name, ofJson value) :: ofEntries rest

end

/-- The entries of a table; nothing else has any. -/
def entries : Settings.Value → List (String × Settings.Value)
  | .table entries => entries
  | _ => []

/-- The items of a list; nothing else has any. -/
def items : Settings.Value → List Settings.Value
  | .list items => items
  | _ => []

/-- A count of 64 bits from a double, rounded and cut off at both ends. -/
def countOfDouble (value : Double) : Nat := min value.roundToNat (Text.wordLimit - 1)

/-- A count from a text; words that mean yes or no are one or zero. -/
def countOfText? (text : String) : Option Nat :=
  let word := Text.lowerAscii text
  if word == "true" || word == "on" || word == "yes" then some 1
  else if word == "false" || word == "off" || word == "no" then some 0
  else Text.word? text.toList

/-- A count of 64 bits.  Of numbers, only a negative whole one has none. -/
def count? : Settings.Value → Option Nat
  | .whole value => if 0 ≤ value then some value.toNat else none
  | .real value => some (countOfDouble value)
  | .infinite negative => some (if negative then 0 else Text.wordLimit - 1)
  | .notANumber => some 0
  | .flag value => some (if value then 1 else 0)
  | .text value => countOfText? value
  | _ => none

def text? : Settings.Value → Option String
  | .text value => some value
  | .flag value => some (if value then "true" else "false")
  | .whole value => some (toString value)
  | .real value => some value.plainText
  | .infinite negative => some (if negative then "-inf" else "inf")
  | .notANumber => some "NaN"
  | _ => none

def optionalText? : Option Settings.Value → Option (Option String)
  | none | some .absent => some none
  | some value => value.text?.map some

def counts? : Settings.Value → Option (List Nat)
  | .list items => items.mapM count?
  | _ => none

/-- A member of a section, which is a table, or a list of at least `size` values. -/
def member? (size position : Nat) (name : String) : Settings.Value → Option Settings.Value
  | .table entries => entries.lookup name
  | .list items => if size ≤ items.length then items[position]? else none
  | _ => none

end Settings.Value

end Aggregation
