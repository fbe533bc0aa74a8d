import Aggregation.Text.Numeral
import Aggregation.Decimal.Shortest
import Aggregation.Json.Basic

namespace Aggregation.Json

/-! Writing JSON, on one line or indented.  Entries are written in their order,
and only quotes, backslashes and control characters are escaped. -/

def Number.text : Number → String
  | .integer value => toString value
  | .double value => value.jsonText

def escapeChar (c : Char) : List Char :=
  match c with
  | '"' => ['\\', '"']
  | '\\' => ['\\', '\\']
  | '\x08' => ['\\', 'b']
  | '\x0c' => ['\\', 'f']
  | '\n' => ['\\', 'n']
  | '\r' => ['\\', 'r']
  | '\t' => ['\\', 't']
  | c =>
    if c.toNat < 0x20 then
      ['\\', 'u', '0', '0', Nat.digitChar (c.toNat / 16), Nat.digitChar (c.toNat % 16)]
    else [c]

def quoted (text : String) : String :=
  "\"" ++ String.ofList (text.toList.flatMap escapeChar) ++ "\""

mutual

/-- The text of a tree without blanks; a part without a value is written `null`. -/
def compact : Json → String
  | .null => "null"
  | .bool value => if value then "true" else "false"
  | .number value => value.text
  | .string value => quoted value
  | .array items => "[" ++ compactItems "" items ++ "]"
  | .object entries => "\x7b" ++ compactEntries "" entries ++ "\x7d"
  | .unreadable => "null"

def compactItems (written : String) : List Json → String
  | [] => written
  | [item] => written ++ compact item
  | item :: rest => compactItems (written ++ compact item ++ ",") rest

def compactEntries (written : String) : List (String × Json) → String
  | [] => written
  | [(key, value)] => written ++ quoted key ++ ":" ++ compact value
  | (key, value) :: rest =>
    compactEntries (written ++ quoted key ++ ":" ++ compact value ++ ",") rest

end

/-- A new line, indented by two blanks for each level. -/
def newLine (level : Nat) : String := "\n" ++ String.ofList (List.replicate (2 * level) ' ')

mutual

/-- The text of a tree with every item and entry on a line of its own. -/
def indented (level : Nat) : Json → String
  | .array [] => "[]"
  | .array items => "[" ++ indentedItems (level + 1) "" items ++ newLine level ++ "]"
  | .object [] => "\x7b\x7d"
  | .object entries =>
    "\x7b" ++ indentedEntries (level + 1) "" entries ++ newLine level ++ "\x7d"
  | .null => "null"
  | .bool value => if value then "true" else "false"
  | .number value => value.text
  | .string value => quoted value
  | .unreadable => "null"

def indentedItems (level : Nat) (written : String) : List Json → String
  | [] => written
  | [item] => written ++ newLine level ++ indented level item
  | item :: rest =>
    indentedItems level (written ++ newLine level ++ indented level item ++ ",") rest

def indentedEntries (level : Nat) (written : String) : List (String × Json) → String
  | [] => written
  | [(key, value)] => written ++ newLine level ++ quoted key ++ ": " ++ indented level value
  | (key, value) :: rest =>
    indentedEntries level
      (written ++ newLine level ++ quoted key ++ ": " ++ indented level value ++ ",") rest

end

def pretty (tree : Json) : String := tree.indented 0

end Aggregation.Json
