import Mathlib
import Aggregation.Calendar.Date

namespace Aggregation.Date

/-! Days and their numbers.

Day numbers count the days of years that begin in March.  Here they are compared with a
plain count, of the days of all years before, of the months before, and of the month
itself.  Numbers and dates belong to each other one to one, in the same order.
-/

/-- Whether there is such a day. -/
structure Valid (date : Date) : Prop where
  month_pos : 1 ≤ date.month
  month_le : date.month ≤ 12
  day_pos : 1 ≤ date.day
  day_le : date.day ≤ daysInMonth date.year date.month

/-- Whether a date comes before another one. -/
def Before (date other : Date) : Prop :=
  date.year < other.year ∨ date.year = other.year ∧
    (date.month < other.month ∨ date.month = other.month ∧ date.day < other.day)

def daysInYear (year : Int) : Nat := if isLeapYear year then 366 else 365

/-- The days from the beginning of year zero to that of a year, which may be earlier. -/
def daysBeforeYear : Int → Int
  | .ofNat year => ∑ before ∈ Finset.range year, (daysInYear before : Int)
  | .negSucc year => -∑ back ∈ Finset.range (year + 1), (daysInYear (-(back + 1)) : Int)

/-- The days from the beginning of a year to that of a month, of which January is the
first. -/
def daysBeforeMonth (year : Int) : Nat → Nat
  | 0 => 0
  | 1 => 0
  | month + 1 => daysBeforeMonth year month + daysInMonth year month

/-- The day of the year, that of the first of January being zero. -/
def dayOfYear (date : Date) : Nat := daysBeforeMonth date.year date.month + (date.day - 1)

/-- The days from the beginning of year zero. -/
def days (date : Date) : Int := daysBeforeYear date.year + date.dayOfYear

/-- The days before a year, in closed form. -/
def yearStart (year : Int) : Int :=
  365 * year + (year + 3) / 4 - (year + 99) / 100 + (year + 399) / 400

/-- The days before the March of a year, counted from that of year zero. -/
def marchStart (year : Int) : Int := 365 * year + year / 4 - year / 100 + year / 400

/-- The date of a day of the year that begins in March, the first day being zero. -/
def ofMarchDay (year day : Int) : Date :=
  let month := (5 * day + 2) / 153
  let dayOfMonth := (day - (153 * month + 2) / 5 + 1).toNat
  if month < 10 then ⟨year, (month + 3).toNat, dayOfMonth⟩
  else ⟨year + 1, (month - 9).toNat, dayOfMonth⟩

variable {date other : Date} {year days : Int} {month : Nat}

section Years

theorem isLeapYear_iff :
    isLeapYear year = true ↔ year % 4 = 0 ∧ (year % 100 ≠ 0 ∨ year % 400 = 0) := by
  simp [isLeapYear]

theorem daysInYear_cases (year : Int) :
    isLeapYear year = true ∧ daysInYear year = 366 ∧
        year % 4 = 0 ∧ (year % 100 ≠ 0 ∨ year % 400 = 0) ∨
      isLeapYear year = false ∧ daysInYear year = 365 ∧
        ¬ (year % 4 = 0 ∧ (year % 100 ≠ 0 ∨ year % 400 = 0)) := by
  cases leap : isLeapYear year with
  | true => exact .inl ⟨rfl, by rw [daysInYear, leap, if_pos rfl], isLeapYear_iff.mp leap⟩
  | false =>
      refine .inr ⟨rfl, by rw [daysInYear, leap]; rfl, fun rule => ?_⟩
      rw [isLeapYear_iff.mpr rule] at leap
      contradiction

theorem yearStart_succ (year : Int) : yearStart (year + 1) = yearStart year + daysInYear year := by
  rcases daysInYear_cases year with ⟨-, length, rule⟩ | ⟨-, length, rule⟩ <;>
  · rw [yearStart, yearStart, length]
    omega

theorem daysBeforeYear_eq (year : Int) : daysBeforeYear year = yearStart year := by
  cases year with
  | ofNat year =>
      rw [daysBeforeYear]
      induction year with
      | zero => rfl
      | succ year ih =>
          rw [Finset.sum_range_succ, ih]
          exact (yearStart_succ year).symm
  | negSucc year =>
      rw [daysBeforeYear]
      induction year with
      | zero => rfl
      | succ year ih =>
          have next := yearStart_succ (Int.negSucc (year + 1))
          have back : Int.negSucc (year + 1) + 1 = Int.negSucc year := rfl
          have same : -(((year + 1 : Nat) : Int) + 1) = Int.negSucc (year + 1) := rfl
          rw [back] at next
          rw [Finset.sum_range_succ, neg_add, ih, next, same]
          omega

theorem yearStart_add_le {earlier later : Int} (before : earlier < later) :
    yearStart earlier + daysInYear earlier ≤ yearStart later := by
  rw [← yearStart_succ, yearStart, yearStart]
  omega

theorem marchStart_eq (year : Int) : marchStart year = yearStart (year + 1) - 366 := by
  rw [marchStart, yearStart]
  omega

theorem marchStart_succ (year : Int) :
    marchStart (year + 1) = marchStart year + daysInYear (year + 1) := by
  rw [marchStart_eq, marchStart_eq, yearStart_succ]
  omega

end Years

section Months

theorem daysInMonth_le (year : Int) (month : Nat) : daysInMonth year month ≤ 31 := by
  unfold daysInMonth
  cases isLeapYear year <;> split <;> decide

theorem daysBeforeMonth_succ (year : Int) (positive : 1 ≤ month) :
    daysBeforeMonth year (month + 1) = daysBeforeMonth year month + daysInMonth year month := by
  cases month with
  | zero => contradiction
  | succ month => rfl

theorem daysBeforeMonth_add_le {earlier later : Nat} (year : Int) (positive : 1 ≤ earlier)
    (before : earlier < later) :
    daysBeforeMonth year earlier + daysInMonth year earlier ≤ daysBeforeMonth year later := by
  rw [← daysBeforeMonth_succ year positive]
  induction later, before using Nat.le_induction with
  | base => exact Nat.le_refl _
  | succ later reached ih =>
      have positive : 1 ≤ later := by omega
      rw [daysBeforeMonth_succ year positive]
      omega

theorem daysInYear_eq (year : Int) : daysInYear year = daysBeforeMonth year 13 := by
  simp only [daysInYear, daysBeforeMonth, daysInMonth]
  cases isLeapYear year <;> rfl

/-- From March on, months of 31 and 30 days take turns in a way that a division tells. -/
theorem daysBeforeMonth_of_march (year : Int) (march : 3 ≤ month) (december : month ≤ 12) :
    daysBeforeMonth year month + 306 = (153 * (month - 3) + 2) / 5 + daysInYear year := by
  simp only [daysInYear]
  interval_cases month <;> simp only [daysBeforeMonth, daysInMonth] <;>
    cases isLeapYear year <;> rfl

end Months

theorem days_eq (date : Date) : date.days = yearStart date.year + date.dayOfYear := by
  rw [days, daysBeforeYear_eq]

/-- Day numbers begin sixty days after year zero does. -/
theorem dayNumber_eq (valid : date.Valid) : date.dayNumber + 60 = date.days := by
  rw [days_eq, dayOfYear]
  obtain ⟨year, month, day⟩ := date
  obtain ⟨positive, december, first, -⟩ := valid
  simp only at positive december first
  by_cases early : month ≤ 2
  · have winter : (daysBeforeMonth year month : Int) = 31 * (month - 1) := by
      interval_cases month <;> rfl
    simp only [dayNumber, early, if_true, yearStart]
    interval_cases month <;> omega
  · have march : 3 ≤ month := by omega
    have table := daysBeforeMonth_of_march year march december
    have next := yearStart_succ year
    simp only [dayNumber, early, if_false]
    rw [yearStart] at next
    omega

section Order

theorem dayOfYear_lt (valid : date.Valid) : date.dayOfYear < daysInYear date.year := by
  have months : daysBeforeMonth date.year date.month + daysInMonth date.year date.month ≤
      daysBeforeMonth date.year 13 :=
    daysBeforeMonth_add_le date.year valid.month_pos (Nat.lt_succ_of_le valid.month_le)
  have positive := valid.day_pos
  have last := valid.day_le
  rw [daysInYear_eq, dayOfYear]
  omega

theorem days_lt_iff (valid : date.Valid) (year : Int) :
    date.days < daysBeforeYear year ↔ date.year < year := by
  rw [days_eq, daysBeforeYear_eq]
  refine ⟨fun less => ?_, fun earlier => ?_⟩
  · by_contra later
    have monotone : yearStart year ≤ yearStart date.year := by
      rw [yearStart, yearStart]
      omega
    omega
  · have years := yearStart_add_le earlier
    have last := dayOfYear_lt valid
    omega

theorem days_lt_of_before (valid : date.Valid) (valid' : other.Valid)
    (before : date.Before other) : date.days < other.days := by
  rcases before with year | ⟨year, within⟩
  · have next := (days_lt_iff valid other.year).mpr year
    rw [other.days_eq, ← daysBeforeYear_eq]
    omega
  · have positive := valid.day_pos
    have positive' := valid'.day_pos
    have last := valid.day_le
    have within : date.dayOfYear < other.dayOfYear := by
      rw [dayOfYear, dayOfYear, ← year]
      rcases within with month | ⟨month, day⟩
      · have months := daysBeforeMonth_add_le date.year valid.month_pos month
        omega
      · rw [← month]
        omega
    rw [days, days, ← year]
    omega

theorem eq_iff : date = other ↔
    date.year = other.year ∧ date.month = other.month ∧ date.day = other.day := by
  cases date
  cases other
  rw [mk.injEq]

theorem before_trichotomy (date other : Date) :
    date.Before other ∨ date = other ∨ other.Before date := by
  rw [Before, Before, eq_iff]
  omega

theorem dayNumber_lt_iff (valid : date.Valid) (valid' : other.Valid) :
    date.dayNumber < other.dayNumber ↔ date.Before other := by
  have count := dayNumber_eq valid
  have count' := dayNumber_eq valid'
  refine ⟨fun less => ?_, fun before => ?_⟩
  · rcases before_trichotomy date other with before | rfl | after
    · exact before
    · exact absurd less (Int.lt_irrefl _)
    · have more := days_lt_of_before valid' valid after
      omega
  · have less := days_lt_of_before valid valid' before
    omega

theorem dayNumber_inj (valid : date.Valid) (valid' : other.Valid) :
    date.dayNumber = other.dayNumber ↔ date = other := by
  refine ⟨fun same => ?_, congrArg dayNumber⟩
  rcases before_trichotomy date other with before | equal | after
  · have less := (dayNumber_lt_iff valid valid').mpr before
    omega
  · exact equal
  · have more := (dayNumber_lt_iff valid' valid).mpr after
    omega

end Order

section Inverse

theorem exists_marchYear_of_lt {days : Int} (least : 0 ≤ days) (count : Nat)
    (below : days < marchStart count) :
    ∃ year : Nat, year < count ∧ marchStart year ≤ days ∧ days < marchStart (year + 1) := by
  induction count with
  | zero =>
      have zero : marchStart (0 : Nat) = 0 := rfl
      omega
  | succ count ih =>
      by_cases earlier : days < marchStart count
      · obtain ⟨year, before, within⟩ := ih earlier
        exact ⟨year, by omega, within⟩
      · exact ⟨count, Nat.lt_succ_self count, Int.not_lt.mp earlier, by exact_mod_cast below⟩

/-- The centuries of an era are as long as each other but for the last, which has one more day. -/
theorem century_of_marchYear {year days : Int} (least : 0 ≤ year) (most : year < 400)
    (begun : marchStart year ≤ days) (unended : days < marchStart (year + 1)) :
    days / 36524 - days / 146096 = year / 100 := by
  rw [marchStart] at begun unended
  -- Beyond these bounds no division of a day is left, and the quotients are told by them.
  have lower : 36524 * (year / 100) ≤ days := by omega
  have upper : days < 36524 * (year / 100 + 1) ∨ year / 100 = 3 ∧ days ≤ 146096 := by
    by_cases last : year + 1 = 100 * (year / 100 + 1)
    · by_cases final : year = 399 <;> omega
    · have fourths : (year + 1) / 4 ≤ 25 * (year / 100) + 24 := by omega
      exact .inl (by omega)
  omega

/-- A day of four years is counted with the next four only after a leap day left out. -/
theorem leapCycle_of_marchYear {year days : Int} (least : 0 ≤ year) (most : year < 400)
    (begun : marchStart year ≤ days) (unended : days < marchStart (year + 1)) :
    days / 1460 = year / 4 ∧ days < marchStart year + 365 ∨
      days / 1460 = year / 4 + 1 ∧ marchStart year < days ∧ days ≤ marchStart year + 365 := by
  rw [marchStart] at *
  have phases : year % 4 = 0 ∨ year % 4 = 1 ∨ year % 4 = 2 ∨ year % 4 = 3 := by omega
  rcases phases with phase | phase | phase | phase <;> omega

/-- Without the leap days before it, a day of an era is one of years of 365 days. -/
theorem yearOfEra_eq {year days : Int} (least : 0 ≤ year) (most : year < 400)
    (begun : marchStart year ≤ days) (unended : days < marchStart (year + 1)) :
    (days - days / 1460 + days / 36524 - days / 146096) / 365 = year := by
  have century := century_of_marchYear least most begun unended
  have cycle := leapCycle_of_marchYear least most begun unended
  rw [marchStart] at *
  omega

/-- Every day is one of a year that begins in March. -/
theorem exists_ofDayNumber_eq (days : Int) :
    ∃ year, marchStart year ≤ days ∧ days < marchStart (year + 1) ∧
      ofDayNumber days = ofMarchDay year (days - marchStart year) := by
  -- Eras of 400 years are alike, so that the year is looked for in the first of them.
  have most : days % 146097 < marchStart (400 : Nat) := by
    change days % 146097 < 146097
    omega
  obtain ⟨year, within, begun, unended⟩ := exists_marchYear_of_lt (by omega) 400 most
  have eras (year : Int) :
      marchStart (year + days / 146097 * 400) = marchStart year + days / 146097 * 146097 := by
    rw [marchStart, marchStart]
    omega
  refine ⟨year + days / 146097 * 400, ?_, ?_, ?_⟩
  · rw [eras]
    omega
  · rw [Int.add_right_comm, eras]
    omega
  · have yearOfEra := yearOfEra_eq (Int.natCast_nonneg year) (by omega) begun unended
    have dayOfYear : days - marchStart (year + days / 146097 * 400) =
        days % 146097 - (365 * year + year / 4 - year / 100) := by
      rw [eras, marchStart]
      omega
    rw [dayOfYear]
    simp only [ofDayNumber, ofMarchDay, yearOfEra]

/-- The days of a year that begins in March run through its months. -/
theorem valid_ofMarchDay {day : Int} (least : 0 ≤ day) (most : day < daysInYear (year + 1)) :
    (ofMarchDay year day).Valid := by
  have february := daysInYear_cases (year + 1)
  obtain ⟨month, counted⟩ : ∃ month, month = (5 * day + 2) / 153 := ⟨_, rfl⟩
  have first : 0 ≤ month := by omega
  have last : month ≤ 11 := by omega
  simp only [ofMarchDay, ← counted]
  interval_cases month <;> constructor <;> simp [daysInMonth] <;> grind

/-- Counting from March needs no table of the months. -/
theorem dayNumber_ofMarchDay {day : Int} (least : 0 ≤ day) (most : day < daysInYear (year + 1)) :
    (ofMarchDay year day).dayNumber = marchStart year + day := by
  have february := daysInYear_cases (year + 1)
  obtain ⟨month, counted⟩ : ∃ month, month = (5 * day + 2) / 153 := ⟨_, rfl⟩
  have first : 0 ≤ month := by omega
  have last : month ≤ 11 := by omega
  by_cases early : month < 10
  · have march : ¬ (month + 3).toNat ≤ 2 := by omega
    simp only [ofMarchDay, ← counted, early, if_true, dayNumber, march, if_false, marchStart]
    omega
  · have january : (month - 9).toNat ≤ 2 := by omega
    simp only [ofMarchDay, ← counted, early, if_false, dayNumber, january, if_true, marchStart]
    omega

theorem valid_ofDayNumber (days : Int) : (ofDayNumber days).Valid := by
  obtain ⟨year, begun, unended, computed⟩ := exists_ofDayNumber_eq days
  rw [marchStart_succ] at unended
  rw [computed]
  exact valid_ofMarchDay (by omega) (by omega)

theorem dayNumber_ofDayNumber (days : Int) : (ofDayNumber days).dayNumber = days := by
  obtain ⟨year, begun, unended, computed⟩ := exists_ofDayNumber_eq days
  rw [marchStart_succ] at unended
  rw [computed, dayNumber_ofMarchDay (by omega) (by omega)]
  omega

theorem ofDayNumber_dayNumber (valid : date.Valid) : ofDayNumber date.dayNumber = date :=
  (dayNumber_inj (valid_ofDayNumber _) valid).mp (dayNumber_ofDayNumber _)

end Inverse

section Making

theorem make?_eq_some_iff {day : Nat} :
    make? year month day = some date ↔
      date = ⟨year, month, day⟩ ∧ date.Valid ∧
        leastYear ≤ date.year ∧ date.year ≤ greatestYear := by
  simp only [make?, Option.ite_none_right_eq_some, Bool.and_eq_true, decide_eq_true_eq,
    Option.some.injEq]
  refine ⟨?_, ?_⟩
  · rintro ⟨⟨⟨⟨⟨⟨least, greatest⟩, first⟩, december⟩, positive⟩, last⟩, rfl⟩
    exact ⟨rfl, ⟨first, december, positive, last⟩, least, greatest⟩
  · rintro ⟨rfl, ⟨first, december, positive, last⟩, least, greatest⟩
    exact ⟨⟨⟨⟨⟨⟨least, greatest⟩, first⟩, december⟩, positive⟩, last⟩, rfl⟩

end Making

end Aggregation.Date
