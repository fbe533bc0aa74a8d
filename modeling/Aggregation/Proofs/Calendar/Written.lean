import Mathlib
import Aggregation.Calendar.Rfc3339
import Aggregation.Proofs.Calendar.DayNumber
import Aggregation.Proofs.Calendar.Timestamp
import Aggregation.Proofs.Text.Numeral

namespace Aggregation

/-! Moments as they are written.

The text of a moment has parts of a fixed width but for its year, which is signed outside
the years 0 to 9999.  Different moments have different texts, and within those years texts
are in the order of their moments.
-/

open Aggregation.Text

attribute [local irreducible] padded

/-- A date as it is written. -/
def Date.text (date : Date) : String :=
  Moment.yearText date.year ++ "-" ++ padded 2 date.month ++ "-" ++ padded 2 date.day

namespace Moment

/-- Whether second and millisecond are within their bounds. -/
structure Clocked (moment : Moment) : Prop where
  second_le : moment.second ≤ 60
  millisecond_lt : moment.millisecond < 1000

/-- Moments count from the first of March, the sixtieth day of year zero. -/
def instant (moment : Moment) : Instant :=
  toLex (moment.minutes + 60 * 1440, moment.second * 1000 + moment.millisecond)

def date (moment : Moment) : Date := Date.ofDayNumber (moment.minutes / minutesPerDay)

def minuteOfDay (moment : Moment) : Nat := (moment.minutes % minutesPerDay).toNat

/-- What follows the date in the text of a moment. -/
def clockChars (moment : Moment) : List Char :=
  'T' :: ((padded 2 (moment.minuteOfDay / 60)).toList ++
    ':' :: ((padded 2 (moment.minuteOfDay % 60)).toList ++
      ':' :: ((padded 2 moment.second).toList ++
        '.' :: ((padded 3 moment.millisecond).toList ++ ['Z']))))

/-- Whether a moment's time of day is earlier than that of another one. -/
def EarlierInDay (moment other : Moment) : Prop :=
  moment.minuteOfDay < other.minuteOfDay ∨ moment.minuteOfDay = other.minuteOfDay ∧
    (moment.second < other.second ∨ moment.second = other.second ∧
      moment.millisecond < other.millisecond)

end Moment

variable {date other : Date} {moment later : Moment} {rest others : List Char}

section Dates

/-- The sign of a year that four digits do not tell. -/
def yearSign (year : Int) : List Char :=
  if year < 0 then ['-'] else if 9999 < year then ['+'] else []

/-- A sign tells the years that four digits do not. -/
theorem toList_yearText (year : Int) :
    (Moment.yearText year).toList =
      yearSign year ++ (padded 4 year.natAbs).toList := by
  rw [yearSign]
  by_cases negative : year < 0
  · have signed : ¬ (0 ≤ year && year ≤ 9999) = true := by simp [negative]
    rw [Moment.yearText, if_neg signed, if_pos negative, if_pos negative, String.toList_append]
    rfl
  · by_cases great : 9999 < year
    · have signed : ¬ (0 ≤ year && year ≤ 9999) = true := by simp [great]
      rw [Moment.yearText, if_neg signed, if_neg negative, if_neg negative, if_pos great,
        String.toList_append]
      rfl
    · have unsigned : (0 ≤ year && year ≤ 9999) = true := by
        rw [Bool.and_eq_true, decide_eq_true_eq, decide_eq_true_eq]
        omega
      have absolute : year.toNat = year.natAbs := by omega
      rw [Moment.yearText, if_pos unsigned, if_neg negative, if_neg great, absolute]
      rfl

theorem yearSign_eq_nil {year : Int} (least : 0 ≤ year) (most : year < 10000) :
    yearSign year = [] := by
  rw [yearSign, if_neg (by omega), if_neg (by omega)]

theorem yearText_inj {year year' : Int} :
    Moment.yearText year = Moment.yearText year' ↔ year = year' := by
  refine ⟨fun same => ?_, congrArg Moment.yearText⟩
  have chars := congrArg String.toList same
  rw [toList_yearText, toList_yearText] at chars
  have signless (year : Int) : (yearSign year).filter Char.isDigit = [] := by
    rw [yearSign]
    split_ifs <;> rfl
  -- The digits of both are the same, and so are then the signs.
  have digits := congrArg (List.filter Char.isDigit) chars
  rw [List.filter_append, List.filter_append, signless, signless,
    List.filter_eq_self.mpr fun _ => isDigit_of_mem_padded,
    List.filter_eq_self.mpr fun _ => isDigit_of_mem_padded] at digits
  have absolute : year.natAbs = year'.natAbs := by
    rw [← numeralValue_padded 4 year.natAbs, ← List.nil_append (padded 4 _).toList, digits,
      List.nil_append, numeralValue_padded]
  rw [absolute] at chars
  have signs := List.append_cancel_right chars
  rw [yearSign, yearSign] at signs
  split_ifs at signs <;> first | contradiction | omega

theorem toList_text_append (date : Date) (rest : List Char) :
    date.text.toList ++ rest = (Moment.yearText date.year).toList ++
      '-' :: ((padded 2 date.month).toList ++ '-' :: ((padded 2 date.day).toList ++ rest)) := by
  simp [Date.text]

theorem Date.Valid.month_lt (valid : date.Valid) : date.month < 10 ^ 2 := by
  have month := valid.month_le
  omega

theorem Date.Valid.day_lt (valid : date.Valid) : date.day < 10 ^ 2 := by
  have day := Nat.le_trans valid.day_le (daysInMonth_le _ _)
  omega

theorem Date.text_append_inj (valid : date.Valid) (valid' : other.Valid)
    (equally : rest.length = others.length) :
    date.text.toList ++ rest = other.text.toList ++ others ↔ date = other ∧ rest = others := by
  refine ⟨fun same => ?_, fun ⟨same, same'⟩ => by rw [same, same']⟩
  rw [toList_text_append, toList_text_append] at same
  -- A year may have any number of digits, but what follows it has a fixed length.
  obtain ⟨years, same⟩ := List.append_inj' same (by
    simp only [List.length_cons, List.length_append]
    rw [length_padded Nat.two_pos valid.month_lt, length_padded Nat.two_pos valid.day_lt,
      length_padded Nat.two_pos valid'.month_lt, length_padded Nat.two_pos valid'.day_lt, equally])
  obtain ⟨months, same⟩ := padded_append_inj Nat.two_pos valid.month_lt valid'.month_lt
    (List.cons.inj same).2
  obtain ⟨days, same⟩ := padded_append_inj Nat.two_pos valid.day_lt valid'.day_lt
    (List.cons.inj same).2
  exact ⟨eq_iff.mpr ⟨yearText_inj.mp (String.toList_inj.mp years), months, days⟩, same⟩

theorem Date.text_append_lt_iff (valid : date.Valid) (valid' : other.Valid)
    (least : 0 ≤ date.year) (most : date.year < 10000) (least' : 0 ≤ other.year)
    (most' : other.year < 10000) :
    date.text.toList ++ rest < other.text.toList ++ others ↔
      date.Before other ∨ date = other ∧ rest < others := by
  rw [toList_text_append, toList_text_append, toList_yearText, toList_yearText,
    yearSign_eq_nil least most, yearSign_eq_nil least' most', List.nil_append, List.nil_append,
    padded_append_lt_iff (by decide) (by omega) (by omega), List.cons_lt_cons_self,
    padded_append_lt_iff Nat.two_pos valid.month_lt valid'.month_lt, List.cons_lt_cons_self,
    padded_append_lt_iff Nat.two_pos valid.day_lt valid'.day_lt]
  have later : date.year.natAbs < other.year.natAbs ↔ date.year < other.year := by omega
  have same : date.year.natAbs = other.year.natAbs ↔ date.year = other.year := by omega
  simp only [Before, eq_iff, later, same, and_or_left, or_assoc, and_assoc]

end Dates

section Clock

theorem Moment.valid_date (moment : Moment) : moment.date.Valid := Date.valid_ofDayNumber _

theorem Moment.minuteOfDay_lt (moment : Moment) : moment.minuteOfDay < 1440 := by
  rw [minuteOfDay, minutesPerDay]
  omega

theorem Moment.minutes_eq (moment : Moment) :
    moment.minutes = moment.date.dayNumber * 1440 + moment.minuteOfDay := by
  rw [date, Date.dayNumber_ofDayNumber, minuteOfDay, minutesPerDay]
  omega

theorem Moment.length_clockChars (clocked : moment.Clocked) : moment.clockChars.length = 14 := by
  have minute := moment.minuteOfDay_lt
  obtain ⟨second, millisecond⟩ := clocked
  simp only [clockChars, List.length_cons, List.length_append, List.length_nil]
  rw [length_padded Nat.two_pos (by omega), length_padded Nat.two_pos (by omega),
    length_padded Nat.two_pos (by omega), length_padded (by decide) (by omega)]

theorem Moment.clockChars_lt_iff (clocked : moment.Clocked) (clocked' : later.Clocked) :
    moment.clockChars < later.clockChars ↔ moment.EarlierInDay later := by
  have minute := moment.minuteOfDay_lt
  have minute' := later.minuteOfDay_lt
  obtain ⟨second, millisecond⟩ := clocked
  obtain ⟨second', millisecond'⟩ := clocked'
  rw [clockChars, clockChars, EarlierInDay, List.cons_lt_cons_self,
    padded_append_lt_iff Nat.two_pos (by omega) (by omega), List.cons_lt_cons_self,
    padded_append_lt_iff Nat.two_pos (by omega) (by omega), List.cons_lt_cons_self,
    padded_append_lt_iff Nat.two_pos (by omega) (by omega), List.cons_lt_cons_self,
    padded_append_lt_iff (by decide) (by omega) (by omega)]
  simp only [List.lt_irrefl, and_false, or_false]
  omega

theorem Moment.toList_text (moment : Moment) :
    moment.text.toList = moment.date.text.toList ++ moment.clockChars := by
  simp [text, date, Date.text, clockChars, minuteOfDay]

/-- Moments are in the order of their days and, within a day, of their times. -/
theorem Moment.instant_lt_iff (clocked : moment.Clocked) (clocked' : later.Clocked) :
    moment.instant < later.instant ↔
      moment.date.Before later.date ∨ moment.date = later.date ∧ moment.EarlierInDay later := by
  have minutes := moment.minutes_eq
  have minutes' := later.minutes_eq
  have minute := moment.minuteOfDay_lt
  have minute' := later.minuteOfDay_lt
  have millisecond := clocked.millisecond_lt
  have millisecond' := clocked'.millisecond_lt
  rw [← Date.dayNumber_lt_iff moment.valid_date later.valid_date,
    ← Date.dayNumber_inj moment.valid_date later.valid_date, EarlierInDay, instant, instant,
    Prod.Lex.toLex_lt_toLex]
  omega

theorem Moment.instant_inj (clocked : moment.Clocked) (clocked' : later.Clocked) :
    moment.instant = later.instant ↔ moment = later := by
  refine ⟨fun same => ?_, congrArg instant⟩
  obtain ⟨minutes, clock⟩ := Prod.mk.inj (toLex.injective same)
  have millisecond := clocked.millisecond_lt
  have millisecond' := clocked'.millisecond_lt
  cases moment
  cases later
  simp only [mk.injEq] at *
  omega

theorem Moment.not_instant_lt (clocked : moment.Clocked) (clocked' : later.Clocked)
    (days : moment.date = later.date) (clocks : moment.clockChars = later.clockChars) :
    ¬ moment.instant < later.instant := by
  rw [instant_lt_iff clocked clocked', ← clockChars_lt_iff clocked clocked', clocks, days,
    ← Date.dayNumber_lt_iff later.valid_date later.valid_date]
  rintro (before | ⟨-, earlier⟩)
  · exact Int.lt_irrefl _ before
  · exact List.lt_irrefl _ earlier

/-- Different moments are written differently. -/
theorem Moment.text_inj (clocked : moment.Clocked) (clocked' : later.Clocked) :
    moment.text = later.text ↔ moment.instant = later.instant := by
  refine ⟨fun same => ?_, fun same => congrArg text ((instant_inj clocked clocked').mp same)⟩
  have chars := congrArg String.toList same
  rw [toList_text, toList_text, Date.text_append_inj moment.valid_date later.valid_date
    ((length_clockChars clocked).trans (length_clockChars clocked').symm)] at chars
  obtain ⟨days, clocks⟩ := chars
  exact le_antisymm (not_lt.mp (not_instant_lt clocked' clocked days.symm clocks.symm))
    (not_lt.mp (not_instant_lt clocked clocked' days clocks))

/-- Whether the year of an instant, in UTC, is one of 0 to 9999. -/
def Instant.FourDigitYear (instant : Instant) : Prop :=
  0 ≤ (ofLex instant).1 ∧ (ofLex instant).1 < Date.daysBeforeYear 10000 * 1440

theorem Moment.fourDigitYear_instant_iff (moment : Moment) :
    moment.instant.FourDigitYear ↔ 0 ≤ moment.date.year ∧ moment.date.year < 10000 := by
  have minutes := moment.minutes_eq
  have minute := moment.minuteOfDay_lt
  have days := Date.dayNumber_eq moment.valid_date
  have zero : Date.daysBeforeYear 0 = 0 := rfl
  rw [← Int.not_lt, ← Date.days_lt_iff moment.valid_date, ← Date.days_lt_iff moment.valid_date,
    zero]
  simp only [Instant.FourDigitYear, instant, ofLex_toLex]
  omega

/-- Within the years 0 to 9999 moments are written in their order. -/
theorem Moment.text_lt_iff (clocked : moment.Clocked) (clocked' : later.Clocked)
    (year : moment.instant.FourDigitYear) (year' : later.instant.FourDigitYear) :
    moment.text < later.text ↔ moment.instant < later.instant := by
  obtain ⟨least, most⟩ := moment.fourDigitYear_instant_iff.mp year
  obtain ⟨least', most'⟩ := later.fourDigitYear_instant_iff.mp year'
  rw [String.lt_iff_toList_lt, toList_text, toList_text, Date.text_append_lt_iff moment.valid_date
    later.valid_date least most least' most', clockChars_lt_iff clocked clocked',
    instant_lt_iff clocked clocked']

end Clock

end Aggregation
