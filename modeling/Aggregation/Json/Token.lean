import Aggregation.Text.Numeral
import Aggregation.Text.Utf8
import Aggregation.Json.Basic

namespace Aggregation.Json

/-! The tokens of a JSON text.

A text is read one piece at a time: between tokens, inside a string, or inside
a word, which is a maximal run of the characters that numbers and the three
literals are made of.
-/

open Aggregation.Text

inductive Token where
  | openArray
  | closeArray
  | openObject
  | closeObject
  | comma
  | colon
  /-- A string, with no value when it holds a lone surrogate or invalid bytes. -/
  | string (value : Option String)
  /-- A number or literal, with its value. -/
  | scalar (value : Json)

/-- A string under way: its characters so far, the last one first. -/
structure PartialString where
  reversed : List Char := []
  readable : Bool := true
  /-- The first half of a surrogate pair whose second half has to follow. -/
  high : Option Nat := none

inductive Mode where
  | between
  | word (reversed : List Char)
  | inString (text : PartialString)
  | escape (text : PartialString)
  /-- `digits` hexadecimal digits of a `\u` escape are missing. -/
  | hex (text : PartialString) (digits : Nat) (code : Nat)

namespace PartialString

/-- A pair that nothing completes leaves the string without a value. -/
def settle (text : PartialString) : PartialString :=
  if text.high.isSome then ⟨text.reversed, false, none⟩ else text

def push (text : PartialString) (c : Char) : PartialString :=
  let settled := text.settle
  { settled with reversed := c :: settled.reversed }

def spoil (text : PartialString) : PartialString := ⟨text.reversed, false, none⟩

/-- Adds a code unit written as `\u` and four digits. -/
def pushUnit (text : PartialString) (unit : Nat) : PartialString :=
  if 0xDC00 ≤ unit && unit ≤ 0xDFFF then
    match text.high with
    | some high =>
      let code := 0x10000 + (high - 0xD800) * 0x400 + (unit - 0xDC00)
      { text with reversed := Char.ofNat code :: text.reversed, high := none }
    | none => text.spoil
  else if 0xD800 ≤ unit && unit ≤ 0xDBFF then { text.settle with high := some unit }
  else text.push (Char.ofNat unit)

def value (text : PartialString) : Option String :=
  let settled := text.settle
  if settled.readable then some (String.ofList settled.reversed.reverse) else none

end PartialString

def isBlankInText (c : Char) : Bool := c == ' ' || c == '\t' || c == '\n' || c == '\r'

def isWordChar (c : Char) : Bool := c.isAlphanum || c == '-' || c == '+' || c == '.'

def escaped? : Char → Option Char
  | '"' => some '"'
  | '\\' => some '\\'
  | '/' => some '/'
  | 'b' => some '\x08'
  | 'f' => some '\x0c'
  | 'n' => some '\n'
  | 'r' => some '\r'
  | 't' => some '\t'
  | _ => none

/-- Keeps as many leading digits as 64 bits hold, and counts those left over. -/
def boundedSignificand : (digits : List Char) → (value : Nat) → Nat × List Char
  | [], value => (value, [])
  | digit :: rest, value =>
    let next := value * 10 + digitValue digit
    if next < wordLimit then boundedSignificand rest next else (value, digit :: rest)

/-- The exponent after `e` or `E`: a sign and digits. -/
def exponent? : List Char → Option Int
  | '-' :: digits => (numeral? digits).map fun n => -(n : Int)
  | '+' :: digits => (numeral? digits).map fun n => (n : Int)
  | digits => (numeral? digits).map fun n => (n : Int)

/-- Digits beyond those that 64 bits hold count by their place alone. -/
def decimalNumber (negative : Bool) (whole fraction : List Char) (exponent : Int) : Json :=
  let (significand, dropped) := boundedSignificand whole 0
  let (significand, usedPlaces) :=
    let (longer, unused) := boundedSignificand fraction significand
    (longer, fraction.length - unused.length)
  match Double.ofDecimal? negative significand (dropped.length - usedPlaces + exponent) with
  | some d => .number (.double d)
  | none => .unreadable

/-- A whole number, which stays whole within 64 bits; `-0` is a double. -/
def wholeNumber (negative : Bool) (digits : List Char) : Json :=
  let value := numeralValue digits
  if negative then
    if 0 < value && value ≤ signedLimit then .number (.integer (-(value : Int)))
    else decimalNumber true digits [] 0
  else if value < wordLimit then ofNat value
  else decimalNumber false digits [] 0

/-- The fraction and exponent that follow the whole part of a number. -/
def numberTail (negative : Bool) (whole : List Char) (tail : List Char) : Option Json :=
  let (fraction?, afterFraction) := match tail with
    | '.' :: rest => (some (rest.takeWhile Char.isDigit), rest.dropWhile Char.isDigit)
    | other => (none, other)
  if fraction? == some [] then none
  else match afterFraction with
    | [] => match fraction? with
      | none => some (wholeNumber negative whole)
      | some fraction => some (decimalNumber negative whole fraction 0)
    | mark :: rest =>
      if mark == 'e' || mark == 'E' then
        (exponent? rest).map (decimalNumber negative whole (fraction?.getD []))
      else none

/-- A number: no zero stands before other digits of its whole part. -/
def number? (text : List Char) : Option Json :=
  let (negative, unsigned) := match text with
    | '-' :: rest => (true, rest)
    | other => (false, other)
  let whole := unsigned.takeWhile Char.isDigit
  let tail := unsigned.dropWhile Char.isDigit
  match whole with
  | [] => none
  | '0' :: _ :: _ => none
  | _ => numberTail negative whole tail

def word? (text : List Char) : Option Json :=
  if text = "null".toList then some .null
  else if text = "true".toList then some (.bool true)
  else if text = "false".toList then some (.bool false)
  else number? text

def betweenTokens (c : Char) : Option (Mode × List Token) :=
  match c with
  | '[' => some (.between, [.openArray])
  | ']' => some (.between, [.closeArray])
  | '\x7b' => some (.between, [.openObject])
  | '\x7d' => some (.between, [.closeObject])
  | ',' => some (.between, [.comma])
  | ':' => some (.between, [.colon])
  | '"' => some (.inString {}, [])
  | c =>
    if isBlankInText c then some (.between, [])
    else if isWordChar c then some (.word [c], [])
    else none

def stringChar (text : PartialString) (c : Char) : Option (Mode × List Token) :=
  if c = '"' then some (.between, [.string text.value])
  else if c = '\\' then some (.escape text, [])
  else if c.toNat < 0x20 then none
  else some (.inString (text.push c), [])

/-- Reads one piece; nothing when it cannot stand where it does. -/
def readPiece (mode : Mode) (piece : Piece) : Option (Mode × List Token) :=
  match mode, piece with
  | .inString text, .broken => some (.inString text.spoil, [])
  | _, .broken => none
  | .between, .char c => betweenTokens c
  | .word reversed, .char c =>
    if isWordChar c then some (.word (c :: reversed), [])
    else do
      let value ← word? reversed.reverse
      let (mode, tokens) ← betweenTokens c
      return (mode, .scalar value :: tokens)
  | .inString text, .char c => stringChar text c
  | .escape text, .char c =>
    if c = 'u' then some (.hex text 4 0, [])
    else (escaped? c).map fun c => (.inString (text.push c), [])
  | .hex text digits code, .char c => do
    let code := code * 16 + (← digitInBase? 16 c)
    if digits ≤ 1 then return (.inString (text.pushUnit code), [])
    else return (.hex text (digits - 1) code, [])

/-- Goes on with a text whose tokens so far are given in reverse. -/
def tokensFrom (mode : Mode) (reversed : List Token) : List Piece → Option (List Token)
  | [] => match mode with
    | .between => some reversed.reverse
    | .word letters => (word? letters.reverse).map fun value =>
        (Token.scalar value :: reversed).reverse
    | _ => none
  | piece :: rest =>
    match readPiece mode piece with
    | some (mode, tokens) => tokensFrom mode (tokens.reverse ++ reversed) rest
    | none => none

/-- The tokens of a text; nothing when it has none. -/
def tokens? (pieces : List Piece) : Option (List Token) := tokensFrom .between [] pieces

end Aggregation.Json
