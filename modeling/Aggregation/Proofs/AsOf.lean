import Mathlib
import Aggregation.AsOf
import Aggregation.Proofs.Calendar.DateLiteral
import Aggregation.Proofs.Calendar.DayNumber
import Aggregation.Proofs.Calendar.Timestamp
import Aggregation.Proofs.Calendar.Written
import Aggregation.Proofs.Text.Numeral

namespace Aggregation.AsOf

/-! Points in time that are asked for by a literal.

A timestamp and a date stand for themselves, whatever the dashboard holds, and are brought
to one text for each instant.
-/

open Aggregation.Text

variable {text : List Char} {value width : Nat} {date : Date} {c : Char}

section Trimming

theorem isBlank_of_isDigit (digit : c.isDigit = true) : isBlank c = false := by
  have bounds := digit_bounds digit
  simp only [isBlank, Bool.or_eq_false_iff, Bool.and_eq_false_imp, decide_eq_true_eq,
    decide_eq_false_iff_not, beq_eq_false_iff_ne]
  omega

/-- Nothing is trimmed at the end of a text that no blank ends. -/
theorem trimChars_concat (front : List Char) (solid : isBlank c = false) :
    trimChars (front ++ [c]) = (front ++ [c]).dropWhile isBlank := by
  have kept : [c].dropWhile isBlank = [c] := List.dropWhile_cons_of_neg (by simp [solid])
  have dropped : (front ++ [c]).dropWhile isBlank = front.dropWhile isBlank ++ [c] := by
    rw [List.dropWhile_append, kept]
    by_cases blank : (front.dropWhile isBlank).isEmpty
    · rw [if_pos blank, List.isEmpty_iff.mp blank, List.nil_append]
    · rw [if_neg blank]
  rw [trimChars, dropped, List.reverse_append, List.reverse_singleton, List.singleton_append,
    List.dropWhile_cons_of_neg (by simp [solid]), List.reverse_cons, List.reverse_reverse]

theorem mem_of_mem_trimChars (member : c ∈ trimChars text) : c ∈ text := by
  rw [trimChars, List.mem_reverse] at member
  have kept := List.mem_reverse.mp ((List.dropWhile_sublist _).mem member)
  exact (List.dropWhile_sublist _).mem kept

theorem path?_eq_none {text : String} (unbraced : '\x7b' ∉ text.toList) :
    Placeholder.path? text = none := by
  have inside : Placeholder.takeText? "\x7b\x7b" (trimChars text.toList) = none := by
    refine if_neg fun begins => unbraced (mem_of_mem_trimChars ?_)
    exact (List.isPrefixOf_iff_prefix.mp begins).subset List.mem_cons_self
  rw [Placeholder.path?, Placeholder.pathChars?, inside]
  rfl

/-- A text without braces asks for what it says, whatever the dashboard holds. -/
theorem resolve?_eq_some_normalize {raw : String} {front : List Char} (dashboard : Json)
    (unbraced : '\x7b' ∉ raw.toList) (written : raw.toList = front ++ [c])
    (solid : isBlank c = false) :
    resolve? raw dashboard = some (normalize (trim raw)) := by
  have trimmed : '\x7b' ∉ (trim raw).toList := fun member =>
    unbraced (mem_of_mem_trimChars (by rwa [trim, String.toList_ofList] at member))
  have literal : literal? raw dashboard = some (trim raw) := by
    rw [literal?, path?_eq_none trimmed]
  have filled : ¬ (trim raw).isEmpty = true := by
    rw [trim, written, trimChars_concat front solid, String.isEmpty_iff, String.ofList_eq_empty_iff,
      List.dropWhile_eq_nil_iff]
    intro blank
    have last := blank c (by simp)
    rw [solid] at last
    exact Bool.false_ne_true last
  rw [resolve?, literal]
  exact if_neg filled

end Trimming

section Timestamps

theorem not_mem_padded (other : c.isDigit = false) : c ∉ (padded width value).toList :=
  fun member => by
    rw [isDigit_of_mem_padded member] at other
    contradiction

theorem brace_not_mem_zone (zone : Zone) : '{' ∉ zone.chars := by
  cases zone with
  | utc letter known =>
      rw [Zone.chars, List.mem_singleton]
      rintro rfl
      exact absurd known (by decide)
  | offset sign known hours minutes =>
      rw [Zone.chars, List.mem_cons, List.mem_append, List.mem_cons]
      rintro (rfl | member | same | member)
      · exact absurd known (by decide)
      · exact not_mem_padded rfl member
      · exact absurd same (by decide)
      · exact not_mem_padded rfl member

theorem brace_not_mem_timestamp (stamp : Timestamp) : '{' ∉ stamp.text.toList := by
  have separator : '{' ≠ stamp.separator := fun same =>
    absurd (same ▸ stamp.separates) (by decide)
  have fraction : '{' ∉ Timestamp.fractionChars stamp.fraction := by
    rw [Timestamp.fractionChars]
    split
    · exact List.not_mem_nil
    · rw [List.mem_cons]
      rintro (same | member)
      · exact absurd same (by decide)
      · exact absurd (stamp.numerals _ member) (by decide)
  have number (width value : Nat) : '{' ∉ (padded width value).toList := not_mem_padded rfl
  simp [Timestamp.text, Timestamp.chars, number, separator, fraction, brace_not_mem_zone]

theorem exists_zone_concat (zone : Zone) :
    ∃ front c, zone.chars = front ++ [c] ∧ isBlank c = false := by
  cases zone with
  | utc letter known =>
      refine ⟨[], letter, rfl, ?_⟩
      rcases List.mem_pair.mp known with rfl | rfl <;> rfl
  | offset sign known hours minutes hours_lt minutes_lt =>
      have filled : (padded 2 minutes).toList ≠ [] :=
        List.ne_nil_of_length_pos (by rw [length_padded Nat.two_pos (by omega)]; decide)
      have last := isBlank_of_isDigit (isDigit_of_mem_padded (List.getLast_mem filled))
      refine ⟨sign :: ((padded 2 hours).toList ++ ':' :: (padded 2 minutes).toList.dropLast),
        (padded 2 minutes).toList.getLast filled, ?_, last⟩
      rw [Zone.chars, List.cons_append, List.append_assoc, List.cons_append,
        List.dropLast_append_getLast]

theorem exists_timestamp_concat (stamp : Timestamp) :
    ∃ front c, stamp.text.toList = front ++ [c] ∧ isBlank c = false := by
  obtain ⟨front, last, zone, solid⟩ := exists_zone_concat stamp.zone
  rw [Timestamp.text, String.toList_ofList, Timestamp.chars, zone]
  simp only [← List.append_assoc, ← List.cons_append]
  exact ⟨_, last, rfl, solid⟩

theorem trim_timestamp (stamp : Timestamp) : trim stamp.text = stamp.text := by
  obtain ⟨front, last, written, solid⟩ := exists_timestamp_concat stamp
  have filled : (padded 4 stamp.year).toList ≠ [] :=
    List.ne_nil_of_length_pos (by rw [length_padded (by decide) stamp.year_lt]; decide)
  obtain ⟨first, digits, year⟩ := List.exists_cons_of_ne_nil filled
  have digit : first.isDigit = true :=
    isDigit_of_mem_padded (year ▸ List.mem_cons_self : first ∈ (padded 4 stamp.year).toList)
  have begins : stamp.text.toList.dropWhile isBlank = stamp.text.toList := by
    rw [Timestamp.text, String.toList_ofList, Timestamp.chars, year, List.cons_append,
      List.dropWhile_cons_of_neg (by simp [isBlank_of_isDigit digit])]
  rw [trim, written, trimChars_concat front solid, ← written, begins, String.ofList_toList]

end Timestamps

section Literals

/-- The first instant of a day. -/
def midnight (date : Date) : Instant := toLex (date.days * 1440, 0)

/-- Whether a literal is a timestamp or a date and says an instant. -/
inductive Denotes : String → Instant → Prop
  | timestamp (stamp : Timestamp) : Denotes stamp.text stamp.instant
  | date {literal : String} {date : Date} (read : Date.ofText? literal = some date) :
      Denotes literal (midnight date)

variable {literal literal' : String} {instant instant' : Instant}

theorem clocked_moment (stamp : Timestamp) : stamp.moment.Clocked := by
  have below := numeralValue_lt stamp.numerals
  refine ⟨stamp.second_le, ?_⟩
  change numeralValue stamp.fraction * 1000 / 10 ^ stamp.fraction.length < 1000
  rw [Nat.div_lt_iff_lt_mul (by positivity)]
  omega

theorem instant_moment (stamp : Timestamp) : stamp.moment.instant = stamp.instant := by
  rw [Moment.instant, Timestamp.instant, Timestamp.moment, Int.sub_add_cancel]

theorem clocked_midnight (date : Date) : (Moment.midnight date).Clocked :=
  ⟨Nat.zero_le 60, Nat.zero_lt_succ 999⟩

theorem instant_midnight (valid : date.Valid) :
    (Moment.midnight date).instant = midnight date := by
  have days := Date.dayNumber_eq valid
  have minutes : (Moment.midnight date).minutes + 60 * 1440 = date.days * 1440 := by
    simp only [Moment.midnight, Moment.minutesPerDay]
    omega
  rw [Moment.instant, minutes]
  simp only [Moment.midnight, midnight, Nat.zero_mul, Nat.add_zero]

/-- A date is no timestamp, which has colons. -/
theorem normalize_date (read : Date.ofText? literal = some date) :
    normalize literal = (Moment.midnight date).text := by
  have timeless : Moment.ofText? literal = none := by
    rw [Option.eq_none_iff_forall_ne_some]
    intro moment timed
    obtain ⟨stamp, rfl, -⟩ := ofText?_eq_some_iff.mp timed
    obtain ⟨-, known, -⟩ := Date.ofChars?_spec read
    have colon := known ':' (by simp [Timestamp.text, Timestamp.chars])
    simp [Date.InText, isBlank] at colon
  rw [normalize, timeless, read]

theorem ofText?_trim (read : Date.ofText? literal = some date) :
    Date.ofText? (trim literal) = some date := by
  obtain ⟨-, -, front, last, written, digit⟩ := Date.ofChars?_spec read
  have trimmed := trimChars_concat front (isBlank_of_isDigit digit)
  rw [← written] at trimmed
  rw [Date.ofText?, trim, String.toList_ofList, trimmed, Date.ofChars?_dropWhile]
  exact read

/-- A literal is resolved to the text of the instant that it says. -/
theorem exists_moment_of_denotes (denotes : Denotes literal instant) :
    ∃ moment : Moment, moment.Clocked ∧ moment.instant = instant ∧
      ∀ dashboard, resolve? literal dashboard = some moment.text := by
  cases denotes with
  | timestamp stamp =>
      refine ⟨stamp.moment, clocked_moment stamp, instant_moment stamp, fun dashboard => ?_⟩
      obtain ⟨front, last, written, solid⟩ := exists_timestamp_concat stamp
      rw [resolve?_eq_some_normalize dashboard (brace_not_mem_timestamp stamp) written solid,
        trim_timestamp, normalize, stamp.ofText?_text]
  | date read =>
      obtain ⟨valid, known, front, last, written, digit⟩ := Date.ofChars?_spec read
      have unbraced : '\x7b' ∉ literal.toList := fun member => by
        have brace := known _ member
        simp [Date.InText, isBlank] at brace
      refine ⟨_, clocked_midnight _, instant_midnight valid, fun dashboard => ?_⟩
      rw [resolve?_eq_some_normalize dashboard unbraced written (isBlank_of_isDigit digit),
        normalize_date (ofText?_trim read)]

theorem text_midnight (valid : date.Valid) :
    (Moment.midnight date).text = date.text ++ "T00:00:00.000Z" := by
  have day : (Moment.midnight date).date = date := by
    rw [Moment.date, Moment.midnight, Int.mul_ediv_cancel _ (by decide),
      Date.ofDayNumber_dayNumber valid]
  have minute : (Moment.midnight date).minuteOfDay = 0 := by
    rw [Moment.minuteOfDay, Moment.midnight, Int.mul_emod_left]
    rfl
  have two : (padded 2 0).toList = ['0', '0'] := by decide
  have three : (padded 3 0).toList = ['0', '0', '0'] := by decide
  rw [← String.toList_inj, Moment.toList_text, day, String.toList_append, Moment.clockChars,
    minute]
  simp only [Moment.midnight, Nat.zero_div, Nat.zero_mod, two, three]
  rfl

theorem exists_timestamp_midnight (valid : date.Valid) (least : 0 ≤ date.year)
    (most : date.year < 10000) :
    ∃ stamp : Timestamp, stamp.text = date.text ++ "T00:00:00Z" ∧
      stamp.instant = midnight date := by
  have unsigned := yearSign_eq_nil least most
  obtain ⟨year, month, day⟩ := date
  obtain ⟨year, rfl⟩ := Int.eq_ofNat_of_zero_le least
  let stamp : Timestamp := {
    year, month, day, hour := 0, minute := 0, second := 0, fraction := []
    separator := 'T', zone := .utc 'Z' (by decide), valid
    year_lt := Int.ofNat_lt.mp most
    hour_lt := by decide, minute_lt := by decide, second_le := by decide
    numerals := by simp
    separates := by decide }
  refine ⟨stamp, ?_, ?_⟩
  · have zeros : (padded 2 0).toList = ['0', '0'] := by decide
    rw [← String.toList_inj, String.toList_append, toList_text_append, toList_yearText, unsigned,
      Timestamp.text, String.toList_ofList, Timestamp.chars]
    simp only [stamp, zeros]
    rfl
  · have minutes : stamp.minutes = Date.days ⟨year, month, day⟩ * 1440 := by
      change (Date.days ⟨year, month, day⟩ * 24 + (0 : Nat)) * 60 + (0 : Nat) - 0 = _
      omega
    have clock : stamp.second * 1000 + stamp.millisecond = 0 := by
      simp [stamp, Timestamp.millisecond, numeralValue]
    rw [Timestamp.instant, minutes, clock, midnight]

/-- Literals of one instant are resolved to one text, those of different instants to
different texts, and within the years 0 to 9999 texts are in the order of instants. -/
theorem resolution_canonical (dashboard : Json) :
    (∀ {literal literal' : String} {instant instant' : Instant},
      Denotes literal instant → Denotes literal' instant' →
        ∃ text text', resolve? literal dashboard = some text ∧
          resolve? literal' dashboard = some text' ∧ (text = text' ↔ instant = instant') ∧
          (instant.FourDigitYear → instant'.FourDigitYear →
            (text < text' ↔ instant < instant'))) ∧
    ∀ {literal : String} {date : Date}, Date.ofText? literal = some date →
      resolve? literal dashboard = some (date.text ++ "T00:00:00.000Z") ∧
      (0 ≤ date.year → date.year < 10000 →
        resolve? (date.text ++ "T00:00:00Z") dashboard = resolve? literal dashboard) := by
  refine ⟨fun denotes denotes' => ?_, fun {literal date} read => ?_⟩
  · obtain ⟨moment, clocked, rfl, resolved⟩ := exists_moment_of_denotes denotes
    obtain ⟨later, clocked', rfl, resolved'⟩ := exists_moment_of_denotes denotes'
    exact ⟨_, _, resolved dashboard, resolved' dashboard, Moment.text_inj clocked clocked',
      Moment.text_lt_iff clocked clocked'⟩
  · have valid := (Date.ofChars?_spec read).1
    have same {text : String} (denotes : Denotes text (midnight date)) :
        resolve? text dashboard = some (date.text ++ "T00:00:00.000Z") := by
      obtain ⟨moment, clocked, instant, resolved⟩ := exists_moment_of_denotes denotes
      rw [← instant_midnight valid] at instant
      rw [resolved, ← text_midnight valid,
        (Moment.instant_inj clocked (clocked_midnight date)).mp instant]
    have resolved := same (.date read)
    refine ⟨resolved, fun least most => ?_⟩
    obtain ⟨stamp, written, instant⟩ := exists_timestamp_midnight valid least most
    rw [resolved, ← written]
    exact same (instant ▸ .timestamp stamp)

/-- The last second of 2016, a leap second. -/
def leapSecond : Timestamp where
  year := 2016
  month := 12
  day := 31
  hour := 23
  minute := 59
  second := 60
  fraction := []
  separator := 'T'
  zone := .utc 'Z' (by decide)
  valid := ⟨by decide, by decide, by decide, by decide⟩
  year_lt := by decide
  hour_lt := by decide
  minute_lt := by decide
  second_le := by decide
  numerals := by simp
  separates := by decide

/-- The first second of 2017, told where clocks are two hours ahead. -/
def newYear : Timestamp where
  year := 2017
  month := 1
  day := 1
  hour := 2
  minute := 0
  second := 0
  fraction := ['0', '0', '0', '9']
  separator := ' '
  zone := .offset '+' (by decide) 2 0 (by decide) (by decide)
  valid := ⟨by decide, by decide, by decide, by decide⟩
  year_lt := by decide
  hour_lt := by decide
  minute_lt := by decide
  second_le := by decide
  numerals := by simp
  separates := by decide

/-- The new year has the text of its date, and the leap second before it another, earlier one. -/
theorem leapSecond_resolved_apart :
    (∃ text text', resolve? "2016-12-31T23:59:60Z" .null = some text ∧
      resolve? "2017-01-01 02:00:00.0009+02:00" .null = some text' ∧ text < text') ∧
    (∃ text, resolve? "2017-01-01 02:00:00.0009+02:00" .null = some text ∧
      resolve? " 2017-1-1" .null = some text) ∧
    resolve? " 2017-1-1" .null = some "2017-01-01T00:00:00.000Z" := by
  have read : Date.ofText? " 2017-1-1" = some ⟨2017, 1, 1⟩ := by decide +kernel
  have leapText : leapSecond.text = "2016-12-31T23:59:60Z" := by decide +kernel
  have newText : newYear.text = "2017-01-01 02:00:00.0009+02:00" := by decide +kernel
  have oldYear : Date.days ⟨2016, 12, 31⟩ = 736694 := by
    rw [Date.days_eq]
    decide +kernel
  have year : Date.days ⟨2017, 1, 1⟩ = 736695 := by
    rw [Date.days_eq]
    decide +kernel
  have years : Date.daysBeforeYear 10000 = 3652425 := by
    rw [Date.daysBeforeYear_eq]
    decide +kernel
  have leap : leapSecond.minutes = 736694 * 1440 + 1439 := by
    change (Date.days ⟨2016, 12, 31⟩ * 24 + 23) * 60 + 59 - 0 = _
    rw [oldYear]
    rfl
  have new : newYear.instant = toLex (736695 * 1440, 0) := by
    have minutes : newYear.minutes = 736695 * 1440 := by
      change (Date.days ⟨2017, 1, 1⟩ * 24 + 2) * 60 + 0 - 120 = _
      rw [year]
      rfl
    have clock : newYear.second * 1000 + newYear.millisecond = 0 := by decide +kernel
    rw [Timestamp.instant, minutes, clock]
  have day : midnight ⟨2017, 1, 1⟩ = toLex (736695 * 1440, 0) := by rw [midnight, year]
  obtain ⟨canonical, dated⟩ := resolution_canonical .null
  have leapDenotes := Denotes.timestamp leapSecond
  have newDenotes := Denotes.timestamp newYear
  rw [leapText] at leapDenotes
  rw [newText, new] at newDenotes
  obtain ⟨text, text', resolved, resolved', -, ordered⟩ := canonical leapDenotes newDenotes
  obtain ⟨same, same', resolvedSame, resolvedSame', equal, -⟩ := canonical newDenotes (.date read)
  refine ⟨⟨text, text', resolved, resolved', (ordered ?_ ?_).mpr ?_⟩,
    ⟨same, resolvedSame, equal.mpr day.symm ▸ resolvedSame'⟩, ?_⟩
  · change 0 ≤ leapSecond.minutes ∧ leapSecond.minutes < _
    rw [leap, years]
    decide
  · change 0 ≤ (736695 * 1440 : Int) ∧ (736695 * 1440 : Int) < _
    rw [years]
    decide
  · rw [Timestamp.instant, leap, Prod.Lex.toLex_lt_toLex]
    decide
  · have written : Date.text ⟨2017, 1, 1⟩ = "2017-01-01" := by decide +kernel
    have resolved := (dated read).1
    rw [written] at resolved
    exact resolved

end Literals

end Aggregation.AsOf
