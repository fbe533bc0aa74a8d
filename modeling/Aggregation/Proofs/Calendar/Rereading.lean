import Mathlib
import Aggregation.Calendar.Rfc3339
import Aggregation.Proofs.Calendar.DateLiteral
import Aggregation.Proofs.Calendar.Timestamp
import Aggregation.Proofs.Calendar.Written
import Aggregation.Proofs.Text.Numeral

namespace Aggregation.Moment

/-! Written moments, read again.

In the years 0 to 9999 a moment is written as a timestamp, and that is read as the moment
itself.  In other years the text is neither a timestamp nor a date.
-/

open Aggregation.Text

attribute [local irreducible] padded

variable {moment : Moment}

theorem date_eq (least : 0 ≤ moment.date.year) :
    (⟨moment.date.year.toNat, moment.date.month, moment.date.day⟩ : Date) = moment.date :=
  Date.eq_iff.mpr ⟨Int.toNat_of_nonneg least, rfl, rfl⟩

theorem utcLetter_known : 'Z' ∈ ['Z', 'z'] := List.mem_cons_self

theorem timeSeparator_separates : 'T' ∈ ['T', 't', ' '] := List.mem_cons_self

/-- The timestamp that a moment of a year of four digits is written as. -/
def stamp (moment : Moment) (clocked : moment.Clocked) (least : 0 ≤ moment.date.year)
    (most : moment.date.year < 10000) : Timestamp where
  year := moment.date.year.toNat
  month := moment.date.month
  day := moment.date.day
  hour := moment.minuteOfDay / 60
  minute := moment.minuteOfDay % 60
  second := moment.second
  fraction := (padded 3 moment.millisecond).toList
  separator := 'T'
  zone := .utc 'Z' utcLetter_known
  valid := date_eq least ▸ moment.valid_date
  year_lt := by omega
  hour_lt := Nat.div_lt_of_lt_mul moment.minuteOfDay_lt
  minute_lt := Nat.mod_lt _ (by decide)
  second_le := clocked.second_le
  numerals := fun _ => isDigit_of_mem_padded
  separates := timeSeparator_separates

section Stamp

variable (clocked : moment.Clocked) (least : 0 ≤ moment.date.year)
  (most : moment.date.year < 10000)

theorem text_stamp : (moment.stamp clocked least most).text = moment.text := by
  have year : (yearText moment.date.year).toList = (padded 4 moment.date.year.toNat).toList := by
    have absolute : moment.date.year.natAbs = moment.date.year.toNat := by omega
    rw [toList_yearText, yearSign_eq_nil least most, absolute, List.nil_append]
  have fraction : Timestamp.fractionChars (padded 3 moment.millisecond).toList =
      '.' :: (padded 3 moment.millisecond).toList :=
    if_neg (padded_ne_nil 3 moment.millisecond)
  rw [← String.toList_inj, toList_text, toList_text_append, year, Timestamp.text,
    String.toList_ofList, Timestamp.chars, clockChars]
  simp only [stamp, fraction, Zone.chars, List.cons_append]

theorem moment_stamp : (moment.stamp clocked least most).moment = moment := by
  have minutes := moment.minutes_eq
  have date : (moment.stamp clocked least most).date = moment.date := date_eq least
  have milliseconds : fractionMilliseconds (padded 3 moment.millisecond).toList =
      moment.millisecond := by
    rw [fractionMilliseconds_eq fun _ => isDigit_of_mem_padded, numeralValue_padded,
      length_padded (by decide) clocked.millisecond_lt]
    exact Nat.mul_div_cancel _ (by decide)
  have clock : moment.date.dayNumber * 1440 + (moment.minuteOfDay / 60 : Nat) * 60 +
      (moment.minuteOfDay % 60 : Nat) - 0 = moment.minutes := by omega
  rw [Timestamp.moment_eq, date]
  simp only [stamp, Zone.ahead, milliseconds, clock]

end Stamp

/-- What is written of a moment is read as that moment, unless the year has a sign. -/
theorem ofText?_text (clocked : moment.Clocked) (least : 0 ≤ moment.date.year)
    (most : moment.date.year < 10000) : ofText? moment.text = some moment :=
  ofText?_eq_some_iff.mpr ⟨_, text_stamp clocked least most, moment_stamp clocked least most⟩

theorem toList_text_of_signed (signed : ¬ (0 ≤ moment.date.year ∧ moment.date.year < 10000)) :
    ∃ sign rest, moment.text.toList = sign :: rest ∧ (sign = '-' ∨ sign = '+') := by
  have year := toList_yearText moment.date.year
  rw [yearSign] at year
  rw [toList_text, toList_text_append, year]
  split
  · exact ⟨'-', _, rfl, .inl rfl⟩
  · rw [if_pos (by omega)]
    exact ⟨'+', _, rfl, .inr rfl⟩

/-- A timestamp has no sign before its year. -/
theorem ofText?_text_of_signed
    (signed : ¬ (0 ≤ moment.date.year ∧ moment.date.year < 10000)) :
    ofText? moment.text = none := by
  obtain ⟨sign, rest, begins, known⟩ := toList_text_of_signed signed
  rw [Option.eq_none_iff_forall_ne_some]
  intro other read
  obtain ⟨stamp, written, -⟩ := ofText?_eq_some_iff.mp read
  obtain ⟨digit, digits, year⟩ := List.exists_cons_of_ne_nil (padded_ne_nil 4 stamp.year)
  have numeral : digit.isDigit = true :=
    isDigit_of_mem_padded (year ▸ List.mem_cons_self : digit ∈ (padded 4 stamp.year).toList)
  rw [← written, Timestamp.text, String.toList_ofList, Timestamp.chars, year] at begins
  rw [(List.cons.inj begins).1] at numeral
  rcases known with rfl | rfl <;> exact absurd numeral (by decide)

/-- A date has no time of day. -/
theorem dateOfText?_text (moment : Moment) : Date.ofText? moment.text = none := by
  rw [Option.eq_none_iff_forall_ne_some]
  intro date read
  obtain ⟨-, known, -⟩ := Date.ofChars?_spec read
  have time := known 'T' (by simp [toList_text, clockChars])
  simp [Date.InText, isBlank] at time

end Aggregation.Moment
