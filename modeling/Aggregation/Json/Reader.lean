import Aggregation.Json.Token

namespace Aggregation.Json

/-! Reading JSON texts.

The containers that are open form a stack, and every token either completes a
value inside the innermost of them, or opens or closes one.  A container deeper
than `depthLimit` has the grammar of a value but none itself.
-/

open Aggregation.Text

/-- How many arrays and objects may be open at once. -/
def depthLimit : Nat := 127

inductive Expected where
  /-- A value, or the end of an array that is still empty. -/
  | valueOrEnd
  | value
  /-- A key, or the end of an object that is still empty. -/
  | keyOrEnd
  | key
  | colon
  | commaOrEnd
deriving DecidableEq

/-- An open container, its parts in reverse. -/
inductive Frame where
  | array (reversed : List Json)
  /-- An object with a key that is no text has no value as a whole. -/
  | object (reversed : List (String × Json)) (key : String) (readable : Bool)

/-- `done` is the whole value once it is complete. -/
structure State where
  frames : List Frame := []
  expected : Expected := .value
  done : Option Json := none

namespace State

/-- Adds a complete value to the innermost container. -/
def complete (state : State) (value : Json) : State :=
  match state.frames with
  | [] => { frames := [], expected := .commaOrEnd, done := some value }
  | .array reversed :: outer =>
    { state with frames := .array (value :: reversed) :: outer, expected := .commaOrEnd }
  | .object reversed key readable :: outer =>
    { state with
      frames := .object ((key, value) :: reversed) key readable :: outer
      expected := .commaOrEnd }

/-- Closes the innermost container, which is as deep as there are frames. -/
def close (state : State) (value : Json) (outer : List Frame) : State :=
  let value := if depthLimit < state.frames.length then .unreadable else value
  { state with frames := outer }.complete value

def closeObject (state : State) : Option State :=
  match state.frames with
  | .object reversed _ readable :: outer =>
    some (state.close (if readable then .object reversed.reverse else .unreadable) outer)
  | _ => none

def closeArray (state : State) : Option State :=
  match state.frames with
  | .array reversed :: outer => some (state.close (.array reversed.reverse) outer)
  | _ => none

def beginValue (state : State) : Token → Option State
  | .openArray => some { state with frames := .array [] :: state.frames, expected := .valueOrEnd }
  | .openObject =>
    some { state with frames := .object [] "" true :: state.frames, expected := .keyOrEnd }
  | .string text => some (state.complete (text.elim .unreadable .string))
  | .scalar value => some (state.complete value)
  | _ => none

def takeKey (state : State) (text : Option String) : Option State :=
  match state.frames with
  | .object reversed _ readable :: outer =>
    some { state with
      frames := .object reversed (text.getD "") (readable && text.isSome) :: outer
      expected := .colon }
  | _ => none

def afterValue (state : State) : Token → Option State
  | .comma => match state.frames with
    | .array _ :: _ => some { state with expected := .value }
    | .object .. :: _ => some { state with expected := .key }
    | [] => none
  | .closeArray => state.closeArray
  | .closeObject => state.closeObject
  | _ => none

def step (state : State) (token : Token) : Option State :=
  if state.done.isSome then none
  else match state.expected, token with
    | .valueOrEnd, .closeArray => state.closeArray
    | .valueOrEnd, token => state.beginValue token
    | .value, token => state.beginValue token
    | .keyOrEnd, .closeObject => state.closeObject
    | .keyOrEnd, .string text => state.takeKey text
    | .key, .string text => state.takeKey text
    | .colon, .colon => some { state with expected := .value }
    | .commaOrEnd, token => state.afterValue token
    | _, _ => none

end State

def treeOfPieces? (pieces : List Piece) : Option Json := do
  let tokens ← tokens? pieces
  let final ← tokens.foldlM State.step {}
  final.done

def tree? (text : String) : Option Json := treeOfPieces? (piecesOfString text)

/-- The tree that bytes in UTF-8 denote; bytes that are no text may stand only
in strings, which then have no value. -/
def treeOfBytes? (bytes : List UInt8) : Option Json := treeOfPieces? (Utf8.pieces bytes)

def read? (text : String) : Option Json := (tree? text).bind value?

/-- Stands in messages for the account of what is wrong with a text, which the
reader does not give. -/
def faultText : String := "*"

end Aggregation.Json
