namespace Aggregation

/-! Calendar days and moments.

The calendar is the Gregorian one, carried on before its introduction and after
year 9999.  A moment counts whole minutes from the first of March of year zero,
so that a change of offset is an addition; its second may be the sixtieth, a
leap second.
-/

structure Date where
  year : Int
  month : Nat
  day : Nat
deriving DecidableEq, Repr

namespace Date

def isLeapYear (year : Int) : Bool :=
  year % 4 == 0 && (year % 100 != 0 || year % 400 == 0)

def daysInMonth (year : Int) (month : Nat) : Nat :=
  match month with
  | 2 => if isLeapYear year then 29 else 28
  | 4 | 6 | 9 | 11 => 30
  | _ => 31

/-- The years that dates may have. -/
def leastYear : Int := -262143

def greatestYear : Int := 262142

/-- The date with these parts, if there is one. -/
def make? (year : Int) (month day : Nat) : Option Date :=
  if leastYear ≤ year && year ≤ greatestYear && 1 ≤ month && month ≤ 12 &&
      1 ≤ day && day ≤ daysInMonth year month then
    some ⟨year, month, day⟩
  else none

/-- Days from the first of March of year zero.  Counting years from March puts
the leap day at a year's end. -/
def dayNumber (date : Date) : Int :=
  let year := if date.month ≤ 2 then date.year - 1 else date.year
  let month : Int := if date.month ≤ 2 then date.month + 9 else date.month - 3
  let era := year / 400
  let yearOfEra := year % 400
  era * 146097 + yearOfEra * 365 + yearOfEra / 4 - yearOfEra / 100 +
    (153 * month + 2) / 5 + (date.day - 1)

/-- The date that is `days` after the first of March of year zero. -/
def ofDayNumber (days : Int) : Date :=
  let era := days / 146097
  let dayOfEra := days % 146097
  let yearOfEra := (dayOfEra - dayOfEra / 1460 + dayOfEra / 36524 - dayOfEra / 146096) / 365
  let dayOfYear := dayOfEra - (365 * yearOfEra + yearOfEra / 4 - yearOfEra / 100)
  let month := (5 * dayOfYear + 2) / 153
  let day := dayOfYear - (153 * month + 2) / 5 + 1
  let year := yearOfEra + era * 400
  if month < 10 then ⟨year, (month + 3).toNat, day.toNat⟩
  else ⟨year + 1, (month - 9).toNat, day.toNat⟩

end Date

/-- A moment in UTC, to the millisecond. -/
structure Moment where
  /-- Minutes from the first of March of year zero. -/
  minutes : Int
  /-- From 0 to 60. -/
  second : Nat
  millisecond : Nat
deriving DecidableEq, Repr

namespace Moment

def minutesPerDay : Int := 1440

/-- The first moment of a day. -/
def midnight (date : Date) : Moment := ⟨date.dayNumber * minutesPerDay, 0, 0⟩

end Moment

end Aggregation
