import Aggregation.Text.Blank
import Aggregation.Text.Numeral
import Aggregation.Calendar.Date

namespace Aggregation

/-! Timestamps and dates as text.

`Moment.ofText?` reads an RFC 3339 timestamp with any offset, `Date.ofText?` a
loosely written date, and `Moment.text` writes a moment in UTC with milliseconds.
-/

open Aggregation.Text

/-- Takes exactly `count` digits from the front. -/
def takeDigits? (count : Nat) (text : List Char) : Option (Nat × List Char) :=
  let digits := text.take count
  if digits.length = count then
    (numeral? digits).map fun value => (value, text.drop count)
  else none

/-- Takes one of the given characters from the front. -/
def takeOneOf? (allowed : List Char) : List Char → Option (List Char)
  | [] => none
  | c :: rest => if allowed.contains c then some rest else none

namespace Moment

/-- The milliseconds of a fraction of one or more digits; more than three are
cut off. -/
def fractionMilliseconds (digits : List Char) : Nat :=
  numeralValue (digits.take 3 ++ List.replicate (3 - digits.length) '0')

/-- A point and digits, or nothing. -/
def takeFraction? : List Char → Option (Nat × List Char)
  | '.' :: rest =>
    let digits := rest.takeWhile Char.isDigit
    if digits.isEmpty then none
    else some (fractionMilliseconds digits, rest.dropWhile Char.isDigit)
  | text => some (0, text)

/-- The minutes by which an offset is ahead of UTC; nothing may follow it. -/
def offset? : List Char → Option Int
  | ['Z'] | ['z'] => some 0
  | sign :: rest => do
    let negative ← if sign = '+' then some false
      else if sign = '-' || sign = Char.ofNat 0x2212 then some true else none
    let (hours, rest) ← takeDigits? 2 rest
    let rest ← takeOneOf? [':'] rest
    let (minutes, rest) ← takeDigits? 2 rest
    guard (rest.isEmpty && hours < 24 && minutes < 60)
    let total : Int := hours * 60 + minutes
    return if negative then -total else total
  | [] => none

/-- Reads an RFC 3339 timestamp: `T`, `t` or one blank before the time, a second
up to 60, a fraction of any length, and `Z`, `z` or an offset. -/
def ofChars? (text : List Char) : Option Moment := do
  let (year, rest) ← takeDigits? 4 text
  let rest ← takeOneOf? ['-'] rest
  let (month, rest) ← takeDigits? 2 rest
  let rest ← takeOneOf? ['-'] rest
  let (day, rest) ← takeDigits? 2 rest
  let rest ← takeOneOf? ['T', 't', ' '] rest
  let (hour, rest) ← takeDigits? 2 rest
  let rest ← takeOneOf? [':'] rest
  let (minute, rest) ← takeDigits? 2 rest
  let rest ← takeOneOf? [':'] rest
  let (second, rest) ← takeDigits? 2 rest
  let (millisecond, rest) ← takeFraction? rest
  let ahead ← offset? rest
  let date ← Date.make? year month day
  guard (hour < 24 && minute < 60 && second ≤ 60)
  let minutes := date.dayNumber * minutesPerDay + hour * 60 + minute - ahead
  return ⟨minutes, second, millisecond⟩

def ofText? (text : String) : Option Moment := ofChars? text.toList

/-- A year: four digits, with a sign outside the years 0 to 9999. -/
def yearText (year : Int) : String :=
  if 0 ≤ year && year ≤ 9999 then padded 4 year.toNat
  else (if year < 0 then "-" else "+") ++ padded 4 year.natAbs

/-- Writes a moment in UTC. -/
def text (moment : Moment) : String :=
  let date := Date.ofDayNumber (moment.minutes / minutesPerDay)
  let minuteOfDay := (moment.minutes % minutesPerDay).toNat
  yearText date.year ++ "-" ++ padded 2 date.month ++ "-" ++ padded 2 date.day ++ "T" ++
    padded 2 (minuteOfDay / 60) ++ ":" ++ padded 2 (minuteOfDay % 60) ++ ":" ++
    padded 2 moment.second ++ "." ++ padded 3 moment.millisecond ++ "Z"

end Moment

namespace Date

/-- Takes a number of at most `width` digits, with any blanks before it. -/
def takeNumber? (width : Nat) (text : List Char) : Option (Nat × List Char) :=
  let text := text.dropWhile isBlank
  let digits := (text.take width).takeWhile Char.isDigit
  (numeral? digits).map fun value => (value, text.drop digits.length)

/-- A year of up to four digits, or of any number of digits after a sign. -/
def takeYear? (text : List Char) : Option (Int × List Char) :=
  let signed (rest : List Char) : Option (Nat × List Char) :=
    let digits := rest.takeWhile Char.isDigit
    (numeral? digits).map fun value => (value, rest.dropWhile Char.isDigit)
  match text.dropWhile isBlank with
  | '-' :: rest => (signed rest).map fun (value, rest) => (-(value : Int), rest)
  | '+' :: rest => (signed rest).map fun (value, rest) => ((value : Int), rest)
  | rest => (takeNumber? 4 rest).map fun (value, rest) => ((value : Int), rest)

/-- Reads year, month and day with `-` between them; blanks may stand before
each number, and month and day need no leading zero. -/
def ofChars? (text : List Char) : Option Date := do
  let (year, rest) ← takeYear? text
  let rest ← takeOneOf? ['-'] rest
  let (month, rest) ← takeNumber? 2 rest
  let rest ← takeOneOf? ['-'] rest
  let (day, rest) ← takeNumber? 2 rest
  guard rest.isEmpty
  make? year month day

def ofText? (text : String) : Option Date := ofChars? text.toList

end Date

end Aggregation
