import Aggregation.Toml.Moment
import Aggregation.Toml.Number
import Aggregation.Toml.Table
import Aggregation.Toml.Token

namespace Aggregation.Toml

/-! Reading TOML texts.

A text is a sequence of lines, each a key with its value or the header of a table
that the keys after it belong to.  Dates and times are read as texts.
-/

open Aggregation.Text

/-! ### Words -/

def word? (letters : List Char) : Option Settings.Value :=
  if letters = "true".toList then some (.flag true)
  else if letters = "false".toList then some (.flag false)
  else match moment? letters with
    | some moment => some (.text moment.text)
    | none => number? letters

def isBareKeyChar (c : Char) : Bool := c.isAlphanum || c == '_' || c == '-'

/-- A word as a part of a dotted key: names, and nothing for each dot. -/
def keyParts (letters : List Char) : List (Option String) :=
  ((splitChars '.' letters).map fun name =>
    if name.isEmpty then [] else [some (String.ofList name)]).intersperse [none] |>.flatten

def keyToken? : Token → Option (List (Option String))
  | .quoted text false => some [some text]
  | .word letters =>
    if letters.all fun c => isBareKeyChar c || c == '.' then some (keyParts letters) else none
  | _ => none

/-- The names of a dotted key, which dots separate. -/
def dotted? : List (Option String) → Option (List String)
  | [some name] => some [name]
  | some name :: none :: rest => (dotted? rest).map (name :: ·)
  | _ => none

/-! ### Lines -/

inductive Frame where
  | list (reversed : List Settings.Value)
  /-- A table in braces, and the key whose value is due. -/
  | table (entries : Entries) (key : List String)

/-- Where the next token stands. -/
inductive Place where
  | lineStart
  /-- After the first bracket of a line. -/
  | headerStart
  | header (repeated : Bool) (parts : List (Option String))
  /-- Before the second closing bracket of a repeated header. -/
  | headerEnd (path : List String)
  /-- Before the `=` of a line or of an entry of a table in braces. -/
  | key (parts : List (Option String)) (frames : List Frame)
  /-- After a comma in a table in braces. -/
  | entry (frames : List Frame)
  | value (frames : List Frame)
  /-- After a word, which one space and another word may complete. -/
  | word (letters : List Char) (frames : List Frame)
  | spacedWord (letters : List Char) (frames : List Frame)
  | afterValue (frames : List Frame)
  | lineEnd

structure State where
  entries : Entries := []
  /-- The path of the table that keys belong to. -/
  table : List String := []
  key : List String := []
  place : Place := .lineStart

namespace State

/-- Adds a complete value to the innermost container, or to the line's table. -/
def push (state : State) (value : Settings.Value) : List Frame → Option State
  | [] => (state.entries.within? (Entries.bind? value state.key) state.table).map fun entries =>
      { state with entries, place := .lineEnd }
  | .list reversed :: outer =>
    some { state with place := .afterValue (.list (value :: reversed) :: outer) }
  | .table entries key :: outer => (entries.bind? value key).map fun entries =>
      { state with place := .afterValue (.table entries [] :: outer) }

/-- Ends the innermost container. -/
def close (state : State) : List Frame → Option State
  | [] => none
  | .list reversed :: outer => state.push (.list reversed.reverse) outer
  | .table entries _ :: outer => state.push (.table (finishEntries entries)) outer

/-- Makes the table of a header the current one. -/
def openTable (state : State) (repeated : Bool) (path : List String) : Option State :=
  (state.entries.header? repeated path).map fun entries =>
    { state with entries, table := path, place := .lineEnd }

/-- The `=` after a key. -/
def takeKey (state : State) (parts : List (Option String)) : List Frame → Option State
  | [] => (dotted? parts).map fun key => { state with key, place := .value [] }
  | .table entries _ :: outer => (dotted? parts).map fun key =>
      { state with place := .value (.table entries key :: outer) }
  | .list _ :: _ => none

def readHeader (state : State) (repeated : Bool) (parts : List (Option String)) :
    Token → Option State
  | .closeBracket => (dotted? parts).bind fun path =>
      if repeated then some { state with place := .headerEnd path } else state.openTable false path
  | token => (keyToken? token).map fun more =>
      { state with place := .header repeated (parts ++ more) }

/-- A token where a value is due. -/
def beginValue (state : State) (frames : List Frame) : Token → Option State
  | .openBracket => some { state with place := .value (.list [] :: frames) }
  | .openBrace => some { state with place := .key [] (.table [] [] :: frames) }
  | .quoted text _ => state.push (.text text) frames
  | .word letters => some { state with place := .word letters frames }
  | .newLine => match frames with
    | .list _ :: _ => some { state with place := .value frames }
    | _ => none
  | .closeBracket => match frames with
    | .list _ :: _ => state.close frames
    | _ => none
  | _ => none

def afterValue (state : State) (frames : List Frame) (token : Token) : Option State :=
  match frames, token with
  | .list _ :: _, .comma => some { state with place := .value frames }
  | .list _ :: _, .newLine => some { state with place := .afterValue frames }
  | .list _ :: _, .closeBracket => state.close frames
  | .table .. :: _, .comma => some { state with place := .entry frames }
  | .table .. :: _, .closeBrace => state.close frames
  | _, _ => none

/-- A token after which no word is open. -/
def readToken (state : State) (token : Token) : Option State :=
  match state.place, token with
  | .headerStart, .openBracket => some { state with place := .header true [] }
  | .headerStart, .blank _ => some { state with place := .header false [] }
  | .headerStart, token => state.readHeader false [] token
  | .headerEnd path, .closeBracket => state.openTable true path
  | .headerEnd _, _ => none
  | _, .blank _ => some state
  | .lineStart, .newLine => some state
  | .lineStart, .openBracket => some { state with place := .headerStart }
  | .lineStart, token => (keyToken? token).map fun parts => { state with place := .key parts [] }
  | .header repeated parts, token => state.readHeader repeated parts token
  | .key parts frames, .equals => state.takeKey parts frames
  | .key [] frames, .closeBrace => state.close frames
  | .key parts frames, token => (keyToken? token).map fun more =>
      { state with place := .key (parts ++ more) frames }
  | .entry frames, token => (keyToken? token).map fun parts =>
      { state with place := .key parts frames }
  | .value frames, token => state.beginValue frames token
  | .afterValue frames, token => state.afterValue frames token
  | .lineEnd, .newLine => some { state with place := .lineStart }
  | .lineEnd, _ | .word .., _ | .spacedWord .., _ => none

/-- A token, which may go on with the word before it: a date, one space and a time are
one moment. -/
def step (state : State) (token : Token) : Option State :=
  match state.place, token with
  | .word letters frames, .blank true => some { state with place := .spacedWord letters frames }
  | .spacedWord letters frames, .word more =>
    (moment? (letters ++ ' ' :: more)).bind fun moment => state.push (.text moment.text) frames
  | .word letters frames, token | .spacedWord letters frames, token => do
    let state ← state.push (← word? letters) frames
    state.readToken token
  | _, token => state.readToken token

def isComplete (state : State) : Bool := state.place matches .lineStart

end State

def read? (text : String) : Option (List (String × Settings.Value)) := do
  let tokens ← tokens? text
  let final ← tokens.foldlM State.step {}
  if final.isComplete then some (finishEntries final.entries) else none

end Aggregation.Toml
