import Aggregation.Text.Blank
import Aggregation.Text.Numeral
import Aggregation.Text.Split
import Aggregation.Json.Basic

namespace Aggregation

/-! Placeholders for dashboard values.

A text of the form `{{filter.<path>}}`, as a whole and with blanks allowed around
it and inside its braces, stands for the dashboard's value at the path.
-/

namespace Placeholder

def isPathChar (c : Char) : Bool :=
  c.isAlphanum || c == '_' || c == '-' || c == '.'

def takeText? (expected : String) (text : List Char) : Option (List Char) :=
  if expected.toList.isPrefixOf text then some (text.drop expected.length) else none

def pathChars? (text : List Char) : Option (List Char) := do
  let inside ← takeText? "\x7b\x7b" (Text.trimChars text)
  let rest ← takeText? "filter." (inside.dropWhile Text.isBlank)
  let path := rest.takeWhile isPathChar
  let closing := (rest.dropWhile isPathChar).dropWhile Text.isBlank
  if !path.isEmpty && closing = "\x7d\x7d".toList then some path else none

def path? (text : String) : Option String := (pathChars? text.toList).map String.ofList

end Placeholder

namespace Dashboard

/-- The part of a value that one segment of a path leads to: the entry of an
object, or the item of an array at a number. -/
def step? (value : Json) (segment : String) : Option Json :=
  match value with
  | .object entries => entries.lookup segment
  | .array items => (Text.word? segment.toList).bind fun index => items[index]?
  | _ => none

def lookup? (dashboard : Json) (path : String) : Option Json :=
  (Text.split '.' path).foldlM step? dashboard

/-- What a string of a filter becomes: the value it is a placeholder for, if
there is one. -/
def substitute (dashboard : Json) (text : String) : Json :=
  ((Placeholder.path? text).bind (lookup? dashboard)).getD (.string text)

mutual

/-- Puts dashboard values in place of the placeholders among the strings of a
filter.  Those that lead nowhere stay, and keys are no placeholders. -/
def inject (dashboard : Json) : Json → Json
  | .string text => substitute dashboard text
  | .array items => .array (injectAll dashboard items)
  | .object entries => .object (injectEntries dashboard entries)
  | other => other

def injectAll (dashboard : Json) : List Json → List Json
  | [] => []
  | item :: rest => inject dashboard item :: injectAll dashboard rest

def injectEntries (dashboard : Json) : List (String × Json) → List (String × Json)
  | [] => []
  | (key, value) :: rest => (key, inject dashboard value) :: injectEntries dashboard rest

end

end Dashboard

end Aggregation
