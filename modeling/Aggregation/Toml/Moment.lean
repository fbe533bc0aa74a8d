import Aggregation.Text.Numeral

namespace Aggregation.Toml

/-! Dates and times of a TOML text.

A moment is a date, a time, or both, and the two together may have an offset.  Its
written form has a `T` between them and no zeros at the end of a fraction.
-/

open Aggregation.Text

structure Date where
  year : Nat
  month : Nat
  day : Nat
deriving DecidableEq, Repr

structure Time where
  hour : Nat
  minute : Nat
  second : Nat
  /-- The digits after the point, the last of which is no zero. -/
  fraction : List Char
deriving DecidableEq, Repr

inductive Offset where
  | zulu
  | shift (negative : Bool) (hours minutes : Nat)
deriving DecidableEq, Repr

structure Moment where
  date : Option Date := none
  time : Option Time := none
  offset : Option Offset := none
deriving DecidableEq, Repr

/-! ### Reading -/

/-- A number of so many digits, and what follows it. -/
def fixedNumber? (width : Nat) (text : List Char) : Option (Nat × List Char) :=
  let digits := text.take width
  if digits.length = width then (numeral? digits).map fun n => (n, text.drop width) else none

def after? (mark : Char) : List Char → Option (List Char)
  | [] => none
  | c :: rest => if c = mark then some rest else none

/-- A date, in any month of which there may be 31 days. -/
def date? (text : List Char) : Option (Date × List Char) := do
  let (year, rest) ← fixedNumber? 4 text
  let (month, rest) ← fixedNumber? 2 (← after? '-' rest)
  let (day, rest) ← fixedNumber? 2 (← after? '-' rest)
  guard (1 ≤ month && month ≤ 12 && 1 ≤ day && day ≤ 31)
  return (⟨year, month, day⟩, rest)

/-- The digits of a fraction, of which nine count. -/
def fractionDigits (digits : List Char) : List Char :=
  ((digits.take 9).reverse.dropWhile (· == '0')).reverse

/-- The fraction of a second after a time, if there is one. -/
def fraction? (text : List Char) : Option (List Char × List Char) :=
  match text with
  | '.' :: rest =>
    let digits := rest.takeWhile Char.isDigit
    if digits.isEmpty then none else some (fractionDigits digits, rest.dropWhile Char.isDigit)
  | text => some ([], text)

/-- A time, whose hour may be 24. -/
def time? (text : List Char) : Option (Time × List Char) := do
  let (hour, rest) ← fixedNumber? 2 text
  let (minute, rest) ← fixedNumber? 2 (← after? ':' rest)
  let (second, rest) ← fixedNumber? 2 (← after? ':' rest)
  guard (hour ≤ 24 && minute ≤ 59 && second ≤ 59)
  let (fraction, rest) ← fraction? rest
  return (⟨hour, minute, second, fraction⟩, rest)

def offset? (text : List Char) : Option Offset :=
  let shift? (negative : Bool) (rest : List Char) : Option Offset := do
    let (hours, rest) ← fixedNumber? 2 rest
    let (minutes, rest) ← fixedNumber? 2 (← after? ':' rest)
    if rest.isEmpty then return .shift negative hours minutes else none
  match text with
  | ['Z'] | ['z'] => some .zulu
  | '+' :: rest => shift? false rest
  | '-' :: rest => shift? true rest
  | _ => none

/-- A time without a date, which has no offset. -/
def timeAlone? (text : List Char) : Option Moment := do
  let (time, rest) ← time? text
  if rest.isEmpty then return ⟨none, some time, none⟩ else none

/-- A date, perhaps with a time and an offset. -/
def dated? (text : List Char) : Option Moment := do
  let (date, rest) ← date? text
  match rest with
  | [] => return ⟨some date, none, none⟩
  | c :: rest =>
    guard (c == 'T' || c == 't' || c == ' ')
    let (time, rest) ← time? rest
    if rest.isEmpty then return ⟨some date, some time, none⟩
    else return ⟨some date, some time, some (← offset? rest)⟩

/-- The moment that a text denotes; a colon in the third place tells a time alone. -/
def moment? (text : List Char) : Option Moment :=
  if text[2]? = some ':' then timeAlone? text else dated? text

/-! ### Writing -/

def Date.text (date : Date) : String :=
  padded 4 date.year ++ "-" ++ padded 2 date.month ++ "-" ++ padded 2 date.day

def Time.text (time : Time) : String :=
  padded 2 time.hour ++ ":" ++ padded 2 time.minute ++ ":" ++ padded 2 time.second ++
    if time.fraction.isEmpty then "" else "." ++ String.ofList time.fraction

/-- The sign of an offset is that of its hours, so one of less than an hour has a plus. -/
def Offset.text : Offset → String
  | zulu => "Z"
  | shift negative hours minutes =>
    (if negative && hours != 0 then "-" else "+") ++ padded 2 hours ++ ":" ++ padded 2 minutes

def Moment.text (moment : Moment) : String :=
  moment.date.elim "" Date.text ++
    (if moment.date.isSome && moment.time.isSome then "T" else "") ++
    moment.time.elim "" Time.text ++ moment.offset.elim "" Offset.text

end Aggregation.Toml
