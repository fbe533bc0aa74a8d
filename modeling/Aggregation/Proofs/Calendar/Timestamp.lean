import Mathlib
import Aggregation.Calendar.Rfc3339
import Aggregation.Proofs.Calendar.DayNumber
import Aggregation.Proofs.Text.Numeral

namespace Aggregation

/-! Timestamps of RFC 3339.

A timestamp carries the bounds of its parts.  The texts that are read as moments are those
of timestamps, and each of them is read as the moment that its timestamp denotes.
-/

open Aggregation.Text

/-- The offset that a timestamp ends in. -/
inductive Zone where
  | utc (letter : Char) (known : letter ∈ ['Z', 'z'])
  | offset (sign : Char) (known : sign ∈ ['+', '-', Char.ofNat 0x2212])
      (hours minutes : Nat) (hours_lt : hours < 24) (minutes_lt : minutes < 60)

namespace Zone

/-- The minutes by which local time is ahead of UTC. -/
def ahead : Zone → Int
  | utc _ _ => 0
  | offset sign _ hours minutes _ _ =>
    let total : Int := hours * 60 + minutes
    if sign = '+' then total else -total

def chars : Zone → List Char
  | utc letter _ => [letter]
  | offset sign _ hours minutes _ _ =>
    sign :: ((padded 2 hours).toList ++ ':' :: (padded 2 minutes).toList)

end Zone

/-- A timestamp in local time. -/
structure Timestamp where
  year : Nat
  month : Nat
  day : Nat
  hour : Nat
  minute : Nat
  /-- The sixtieth is a leap second. -/
  second : Nat
  /-- The digits after the point; without any there is no point. -/
  fraction : List Char
  separator : Char
  zone : Zone
  valid : Date.Valid ⟨year, month, day⟩
  year_lt : year < 10000
  hour_lt : hour < 24
  minute_lt : minute < 60
  second_le : second ≤ 60
  numerals : ∀ c ∈ fraction, c.isDigit = true
  separates : separator ∈ ['T', 't', ' ']

/-- A moment in UTC: minutes from the beginning of year zero, and the milliseconds of the
minute.  A leap second has its own, after those of the second before. -/
abbrev Instant := Int ×ₗ Nat

namespace Timestamp

def date (stamp : Timestamp) : Date := ⟨stamp.year, stamp.month, stamp.day⟩

def minutes (stamp : Timestamp) : Int :=
  (stamp.date.days * 24 + stamp.hour) * 60 + stamp.minute - stamp.zone.ahead

def millisecond (stamp : Timestamp) : Nat :=
  numeralValue stamp.fraction * 1000 / 10 ^ stamp.fraction.length

/-- The moment that a timestamp denotes, to the millisecond. -/
def instant (stamp : Timestamp) : Instant :=
  toLex (stamp.minutes, stamp.second * 1000 + stamp.millisecond)

def fractionChars (fraction : List Char) : List Char :=
  if fraction = [] then [] else '.' :: fraction

def chars (stamp : Timestamp) : List Char :=
  (padded 4 stamp.year).toList ++ '-' :: ((padded 2 stamp.month).toList ++
    '-' :: ((padded 2 stamp.day).toList ++ stamp.separator :: ((padded 2 stamp.hour).toList ++
      ':' :: ((padded 2 stamp.minute).toList ++ ':' :: ((padded 2 stamp.second).toList ++
        (fractionChars stamp.fraction ++ stamp.zone.chars))))))

def text (stamp : Timestamp) : String := String.ofList stamp.chars

/-- Moments count from the first of March of year zero, sixty days after its beginning. -/
def moment (stamp : Timestamp) : Moment :=
  ⟨stamp.minutes - 60 * 1440, stamp.second, stamp.millisecond⟩

end Timestamp

-- What is said of padded numerals is said by lemmas, so that no step computes their digits.
attribute [local irreducible] padded

variable {text rest digits : List Char} {count value : Nat} {c : Char}

section Parts

/-- The rule for one step of a reading, as it stands in a `do` block. -/
theorem do_eq_some_iff {α β : Type} {first : Option α} {next : α → Option β} {result : β} :
    (do next (← first)) = some result ↔ ∃ read, first = some read ∧ next read = some result :=
  Option.bind_eq_some_iff

/-- A number of a fixed width is read just where it is written. -/
theorem takeDigits?_eq_some_iff (positive : 0 < count) :
    takeDigits? count text = some (value, rest) ↔
      value < 10 ^ count ∧ (padded count value).toList ++ rest = text := by
  refine ⟨fun taken => ?_, ?_⟩
  · simp only [takeDigits?, Option.ite_none_right_eq_some, Option.map_eq_some_iff,
      Prod.mk.injEq] at taken
    obtain ⟨width, number, read, rfl, rfl⟩ := taken
    obtain ⟨filled, numerals, rfl⟩ := numeral?_eq_some_iff.mp read
    have written := padded_numeralValue filled numerals
    have below := numeralValue_lt numerals
    rw [width] at written below
    exact ⟨below, by rw [written, List.take_append_drop]⟩
  · rintro ⟨below, rfl⟩
    have width := length_padded positive below
    have read : numeral? (padded count value).toList = some value := by
      refine numeral?_eq_some_iff.mpr ⟨?_, fun _ => isDigit_of_mem_padded, numeralValue_padded _ _⟩
      exact List.ne_nil_of_length_pos (by omega)
    rw [takeDigits?, List.take_left' width, List.drop_left' width, if_pos width, read]
    rfl

theorem takeOneOf?_eq_some_iff {allowed : List Char} :
    takeOneOf? allowed text = some rest ↔ ∃ c ∈ allowed, c :: rest = text := by
  cases text with
  | nil => simp [takeOneOf?]
  | cons c tail =>
      simp only [takeOneOf?, List.contains_iff_mem, Option.ite_none_right_eq_some,
        Option.some.injEq, List.cons.injEq]
      exact ⟨fun ⟨known, same⟩ => ⟨c, known, rfl, same.symm⟩,
        fun ⟨_, known, rfl, same⟩ => ⟨known, same.symm⟩⟩

/-- Milliseconds are the whole thousandths of a fraction, however many digits it has. -/
theorem fractionMilliseconds_eq (numerals : ∀ c ∈ digits, c.isDigit = true) :
    Moment.fractionMilliseconds digits = numeralValue digits * 1000 / 10 ^ digits.length := by
  have thousand : (10 ^ 3 : Nat) = 1000 := rfl
  rw [Moment.fractionMilliseconds]
  by_cases short : digits.length ≤ 3
  · have scale : 1000 = 10 ^ (3 - digits.length) * 10 ^ digits.length := by
      rw [← pow_add, Nat.sub_add_cancel short, thousand]
    have zeros (count : Nat) : numeralValue (List.replicate count '0') = 0 := by
      rw [numeralValue_eq, Nat.ofDigitChars_replicate_zero, Nat.mul_zero]
    rw [List.take_of_length_le short, numeralValue_append, zeros, List.length_replicate,
      Nat.add_zero, scale, ← Nat.mul_assoc, Nat.mul_div_cancel _ (by positivity)]
  · have cut : digits.length = 3 + (digits.drop 3).length := by
      rw [List.length_drop]
      omega
    have below : numeralValue (digits.drop 3) < 10 ^ (digits.drop 3).length :=
      numeralValue_lt fun c member => numerals c (List.mem_of_mem_drop member)
    have whole : numeralValue digits =
        10 ^ (digits.drop 3).length * numeralValue (digits.take 3) +
          numeralValue (digits.drop 3) := by
      conv_lhs => rw [← List.take_append_drop 3 digits]
      rw [numeralValue_append, Nat.mul_comm]
    have none : 3 - digits.length = 0 := by omega
    rw [none, List.replicate_zero, List.append_nil, cut, pow_add, thousand, Nat.mul_comm _ 1000,
      Nat.mul_div_mul_left _ _ (by decide), whole, Nat.mul_add_div (by positivity),
      Nat.div_eq_of_lt below, Nat.add_zero]

/-- A fraction ends where something other than a digit follows. -/
theorem takeFraction?_append (numerals : ∀ c ∈ digits, c.isDigit = true)
    (ended : c.isDigit = false) (pointless : c ≠ '.') :
    Moment.takeFraction? (Timestamp.fractionChars digits ++ c :: rest) =
      some (Moment.fractionMilliseconds digits, c :: rest) := by
  by_cases empty : digits = []
  · rw [Timestamp.fractionChars, if_pos empty, List.nil_append, empty]
    unfold Moment.takeFraction?
    split
    · exact absurd (List.cons.inj ‹_›).1 pointless
    · rfl
  · rw [Timestamp.fractionChars, if_neg empty, List.cons_append, Moment.takeFraction?,
      List.takeWhile_append_of_pos numerals, List.dropWhile_append_of_pos numerals,
      List.takeWhile_cons_of_neg (by rw [ended]; decide), List.append_nil,
      List.dropWhile_cons_of_neg (by rw [ended]; decide)]
    exact if_neg (mt List.isEmpty_iff.mp empty)

theorem exists_fraction {millisecond : Nat}
    (taken : Moment.takeFraction? text = some (millisecond, rest)) :
    ∃ digits, (∀ c ∈ digits, c.isDigit = true) ∧
      Timestamp.fractionChars digits ++ rest = text ∧
      Moment.fractionMilliseconds digits = millisecond := by
  unfold Moment.takeFraction? at taken
  split at taken
  · rename_i after
    simp only [Option.ite_none_left_eq_some, Option.some.injEq, Prod.mk.injEq] at taken
    obtain ⟨filled, rfl, rfl⟩ := taken
    refine ⟨after.takeWhile Char.isDigit, fun c => List.mem_takeWhile_imp, ?_, rfl⟩
    rw [Timestamp.fractionChars, if_neg (mt List.isEmpty_iff.mpr filled), List.cons_append,
      List.takeWhile_append_dropWhile]
  · obtain ⟨rfl, rfl⟩ := Prod.mk.inj (Option.some.inj taken)
    exact ⟨[], by simp, rfl, rfl⟩

/-- What may follow the sign of an offset. -/
theorem offset?_amount {negative : Bool} {ahead : Int} :
    (do
      let (hours, rest) ← takeDigits? 2 text
      let rest ← takeOneOf? [':'] rest
      let (minutes, rest) ← takeDigits? 2 rest
      guard (rest.isEmpty && hours < 24 && minutes < 60)
      let total : Int := hours * 60 + minutes
      return if negative then -total else total) = some ahead ↔
    ∃ hours minutes, hours < 24 ∧ minutes < 60 ∧
      (padded 2 hours).toList ++ ':' :: (padded 2 minutes).toList = text ∧
      (if negative then -(hours * 60 + minutes : Int) else hours * 60 + minutes) = ahead := by
  simp only [do_eq_some_iff, Prod.exists,
    takeDigits?_eq_some_iff Nat.two_pos, takeOneOf?_eq_some_iff, List.mem_singleton]
  refine ⟨?_, ?_⟩
  · rintro ⟨hours, _, ⟨-, rfl⟩, _, ⟨_, rfl, rfl⟩, minutes, _, ⟨-, rfl⟩, ⟨⟩, checked, result⟩
    simp only [Option.guard_eq_some', Bool.and_eq_true, decide_eq_true_eq,
      List.isEmpty_iff] at checked
    obtain ⟨⟨rfl, hour⟩, minute⟩ := checked
    exact ⟨hours, minutes, hour, minute, by rw [List.append_nil], Option.some.inj result⟩
  · rintro ⟨hours, minutes, hour, minute, rfl, rfl⟩
    refine ⟨hours, _, ⟨by omega, rfl⟩, _, ⟨':', rfl, rfl⟩, minutes, [],
      ⟨by omega, List.append_nil _⟩, (), ?_, rfl⟩
    simp [hour, minute]

/-- Nothing but the zones of timestamps is read as an offset. -/
theorem offset?_eq_some_iff {ahead : Int} :
    Moment.offset? text = some ahead ↔ ∃ zone : Zone, zone.chars = text ∧ zone.ahead = ahead := by
  refine ⟨fun read => ?_, ?_⟩
  · unfold Moment.offset? at read
    split at read
    · exact ⟨.utc 'Z' (by decide), rfl, Option.some.inj read⟩
    · exact ⟨.utc 'z' (by decide), rfl, Option.some.inj read⟩
    · rename_i sign after _ _
      split at read
      · obtain ⟨hours, minutes, hour, minute, rfl, rfl⟩ := offset?_amount.mp read
        exact ⟨.offset sign (by simp [*]) hours minutes hour minute, rfl, if_pos ‹_›⟩
      · rename_i positive
        split at read
        · obtain ⟨hours, minutes, hour, minute, rfl, rfl⟩ := offset?_amount.mp read
          exact ⟨.offset sign (by simp_all) hours minutes hour minute, rfl, if_neg positive⟩
        · contradiction
    · contradiction
  · rintro ⟨zone, rfl, rfl⟩
    cases zone with
    | utc letter known =>
        rcases List.mem_pair.mp known with rfl | rfl <;> rfl
    | offset sign known hours minutes hour minute =>
        have amount (negative : Bool) := offset?_amount.mpr
          ⟨hours, minutes, hour, minute, rfl, (rfl : _ = if negative then _ else _)⟩
        simp only [List.mem_cons, List.not_mem_nil, or_false] at known
        rw [Zone.chars, Moment.offset?, Zone.ahead]
        · by_cases positive : sign = '+'
          · rw [if_pos positive, if_pos positive, Option.bind_eq_bind, Option.bind_some]
            exact amount false
          · have minus : (sign = '-' || sign = Char.ofNat 0x2212) = true := by
              simpa [positive] using known
            rw [if_neg positive, if_pos minus, if_neg positive, Option.bind_eq_bind,
              Option.bind_some]
            exact amount true
        · intro _ none
          simp at none
        · intro _ none
          simp at none

theorem Zone.exists_chars_eq (zone : Zone) :
    ∃ c rest, zone.chars = c :: rest ∧ c.isDigit = false ∧ c ≠ '.' := by
  cases zone with
  | utc letter known =>
      refine ⟨letter, [], rfl, ?_⟩
      rcases List.mem_pair.mp known with rfl | rfl <;> exact ⟨rfl, by decide⟩
  | offset sign known hours minutes =>
      refine ⟨sign, _, rfl, ?_⟩
      simp only [List.mem_cons, List.not_mem_nil, or_false] at known
      rcases known with rfl | rfl | rfl <;> exact ⟨rfl, by decide⟩

end Parts

section Whole

variable {moment : Moment}

theorem Timestamp.moment_eq (stamp : Timestamp) :
    stamp.moment = ⟨stamp.date.dayNumber * 1440 + stamp.hour * 60 + stamp.minute -
      stamp.zone.ahead, stamp.second, Moment.fractionMilliseconds stamp.fraction⟩ := by
  have days : stamp.date.dayNumber + 60 = stamp.date.days := Date.dayNumber_eq stamp.valid
  rw [moment, millisecond, fractionMilliseconds_eq stamp.numerals, minutes, Moment.mk.injEq]
  refine ⟨?_, rfl, rfl⟩
  omega

/-- Moments are read from the texts of timestamps and from no others. -/
theorem ofChars?_eq_some_iff :
    Moment.ofChars? text = some moment ↔
      ∃ stamp : Timestamp, stamp.chars = text ∧ stamp.moment = moment := by
  simp only [Moment.ofChars?, do_eq_some_iff, Prod.exists, takeDigits?_eq_some_iff Nat.two_pos,
    takeDigits?_eq_some_iff (show 0 < 4 by decide), takeOneOf?_eq_some_iff, List.mem_singleton,
    offset?_eq_some_iff, Date.make?_eq_some_iff, Option.guard_eq_some']
  refine ⟨?_, ?_⟩
  -- Each step says what the text begins with, so that they put it together from its end.
  · rintro ⟨year, _, ⟨year_lt, rfl⟩, _, ⟨_, rfl, rfl⟩, month, _, ⟨-, rfl⟩, _, ⟨_, rfl, rfl⟩,
      day, _, ⟨-, rfl⟩, _, ⟨separator, separates, rfl⟩, hour, _, ⟨-, rfl⟩, _, ⟨_, rfl, rfl⟩,
      minute, _, ⟨-, rfl⟩, _, ⟨_, rfl, rfl⟩, second, _, ⟨-, rfl⟩, millisecond, _, taken,
      _, ⟨zone, rfl, rfl⟩, _, ⟨rfl, valid, -, -⟩, _, bounded, result⟩
    obtain ⟨digits, numerals, rfl, rfl⟩ := exists_fraction taken
    simp only [Bool.and_eq_true, decide_eq_true_eq] at bounded
    obtain ⟨⟨hour_lt, minute_lt⟩, second_le⟩ := bounded
    let stamp : Timestamp := {
      year, month, day, hour, minute, second, fraction := digits, separator, zone
      valid, year_lt, hour_lt, minute_lt, second_le, numerals, separates }
    exact ⟨stamp, rfl, stamp.moment_eq.trans (Option.some.inj result)⟩
  · rintro ⟨stamp, rfl, rfl⟩
    obtain ⟨c, after, zone, ended, pointless⟩ := stamp.zone.exists_chars_eq
    have fraction : Moment.takeFraction?
        (Timestamp.fractionChars stamp.fraction ++ stamp.zone.chars) =
          some (Moment.fractionMilliseconds stamp.fraction, stamp.zone.chars) := by
      rw [zone, takeFraction?_append stamp.numerals ended pointless]
    have month : stamp.month ≤ 12 := stamp.valid.month_le
    have day : stamp.day ≤ 31 := Nat.le_trans stamp.valid.day_le (Date.daysInMonth_le _ _)
    have year := stamp.year_lt
    have hour := stamp.hour_lt
    have minute := stamp.minute_lt
    have second := stamp.second_le
    refine ⟨stamp.year, _, ⟨year, rfl⟩, _, ⟨_, rfl, rfl⟩, stamp.month, _, ⟨by omega, rfl⟩, _,
      ⟨_, rfl, rfl⟩, stamp.day, _, ⟨by omega, rfl⟩, _, ⟨_, stamp.separates, rfl⟩, stamp.hour, _,
      ⟨by omega, rfl⟩, _, ⟨_, rfl, rfl⟩, stamp.minute, _, ⟨by omega, rfl⟩, _, ⟨_, rfl, rfl⟩,
      stamp.second, _, ⟨by omega, rfl⟩, _, _, fraction, _, ⟨stamp.zone, rfl, rfl⟩, _,
      ⟨rfl, stamp.valid, ?_, ?_⟩, (), ?_, congrArg some stamp.moment_eq.symm⟩
    · change -262143 ≤ (stamp.year : Int)
      omega
    · change (stamp.year : Int) ≤ 262142
      omega
    · simp [hour, minute, second]

theorem ofText?_eq_some_iff {text : String} :
    Moment.ofText? text = some moment ↔
      ∃ stamp : Timestamp, stamp.text = text ∧ stamp.moment = moment := by
  rw [Moment.ofText?, ofChars?_eq_some_iff]
  simp only [Timestamp.text, String.ofList_eq]

theorem Timestamp.ofText?_text (stamp : Timestamp) :
    Moment.ofText? stamp.text = some stamp.moment :=
  ofText?_eq_some_iff.mpr ⟨stamp, rfl, rfl⟩

end Whole

end Aggregation
