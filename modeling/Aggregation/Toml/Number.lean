import Aggregation.Text.Numeral
import Aggregation.Text.Split
import Aggregation.Decimal.Double
import Aggregation.Settings.Value

namespace Aggregation.Toml

/-! The numbers of a TOML text.

A whole number has to fit 64 bits with its sign.  Underscores may stand between
digits, and nowhere else.
-/

open Aggregation.Text

/-- Digits without the underscores between them. -/
def plainDigits? (isDigit : Char → Bool) (text : List Char) : Option (List Char) :=
  let groups := splitChars '_' text
  if groups.all fun group => !group.isEmpty && group.all isDigit then some groups.flatten
  else none

/-- Digits of a decimal number, with no zero before others. -/
def wholeDigits? (text : List Char) : Option (List Char) :=
  (plainDigits? Char.isDigit text).filter fun
    | '0' :: _ :: _ => false
    | _ => true

def splitMinus : List Char → Bool × List Char
  | '-' :: rest => (true, rest)
  | text => (false, text)

def dropPlus : List Char → List Char
  | '+' :: rest => rest
  | text => text

def integer? (negative : Bool) (magnitude : Nat) : Option Settings.Value :=
  let value : Int := if negative then -magnitude else magnitude
  if -(signedLimit : Int) ≤ value && value < signedLimit then some (.whole value) else none

def inBase? (base : Nat) (text : List Char) : Option Settings.Value := do
  let digits ← plainDigits? (fun c => (digitInBase? base c).isSome) text
  let values ← digits.mapM (digitInBase? base)
  integer? false (values.foldl (fun value digit => value * base + digit) 0)

/-- The exponent after `e` or `E`, which may have a sign. -/
def exponent? (text : List Char) : Option Int :=
  let (negative, digits) := match text with
    | '+' :: rest => (false, rest)
    | text => splitMinus text
  (plainDigits? Char.isDigit digits).map fun digits =>
    if negative then -(numeralValue digits : Int) else numeralValue digits

/-- A number with a fraction, an exponent, or both. -/
def fractional? (negative : Bool) (text : List Char) : Option Settings.Value := do
  let (mantissa, exponent) ←
    match splitOnce 'e' (text.map Char.toLower) with
    | some (mantissa, exponent) => (exponent? exponent).map fun e => (mantissa, e)
    | none => some (text, 0)
  let (whole, fraction) ← match splitOnce '.' mantissa with
    | some (whole, fraction) => (plainDigits? Char.isDigit fraction).map fun f => (whole, f)
    | none => some (mantissa, [])
  let whole ← wholeDigits? whole
  let value ← Double.nearestDecimal? negative (numeralValue (whole ++ fraction))
    (exponent - fraction.length)
  return .real value

def decimal? (text : List Char) : Option Settings.Value :=
  let (negative, digits) := splitMinus text
  if digits = "inf".toList then some (.infinite negative)
  else if digits = "nan".toList then some .notANumber
  else match wholeDigits? digits with
    | some whole => integer? negative (numeralValue whole)
    | none =>
      if digits.any fun c => c == '.' || c == 'e' || c == 'E' then fractional? negative digits
      else none

/-- A number, before which a plus may stand; only decimals may have a minus. -/
def number? (text : List Char) : Option Settings.Value :=
  match dropPlus text with
  | '0' :: 'x' :: digits => inBase? 16 digits
  | '0' :: 'o' :: digits => inBase? 8 digits
  | '0' :: 'b' :: digits => inBase? 2 digits
  | text => decimal? text

end Aggregation.Toml
