import Mathlib
import Aggregation.AsOf
import Aggregation.Proofs.AsOf
import Aggregation.Proofs.Calendar.Rereading
import Aggregation.Proofs.Text.Trimming

namespace Aggregation.AsOf

/-! Points in time, resolved again.

What a text is resolved to has no blanks at its ends and is no placeholder, and it is
resolved to itself, whatever the dashboard: written moments are read as themselves or not
at all, and any other text was not changed in the first place.
-/

open Aggregation.Text

attribute [local irreducible] padded

variable {moment : Moment} {raw resolved text : String}

section Written

theorem mem_yearSign {year : Int} {c : Char} (member : c ∈ yearSign year) : c = '-' ∨ c = '+' := by
  rw [yearSign] at member
  split_ifs at member
  · exact .inl (List.mem_singleton.mp member)
  · exact .inr (List.mem_singleton.mp member)
  · contradiction

theorem brace_not_mem_text (moment : Moment) : '\x7b' ∉ moment.text.toList := by
  have number (width value : Nat) : '\x7b' ∉ (padded width value).toList := not_mem_padded rfl
  have sign : '\x7b' ∉ yearSign moment.date.year := fun member => by
    rcases mem_yearSign member with same | same <;> exact absurd same (by decide)
  rw [Moment.toList_text, toList_text_append, toList_yearText, Moment.clockChars]
  simp [number, sign]

theorem trimmed_text (moment : Moment) : Trimmed moment.text.toList where
  begins := by
    intro c first
    have filled : (Moment.yearText moment.date.year).toList ≠ [] := by
      rw [toList_yearText]
      exact List.append_ne_nil_of_right_ne_nil _ (padded_ne_nil _ _)
    rw [Moment.toList_text, toList_text_append, List.head?_append_of_ne_nil _ filled,
      toList_yearText] at first
    rcases List.mem_append.mp (List.mem_of_head? first) with sign | digit
    · rcases mem_yearSign sign with rfl | rfl <;> rfl
    · exact isBlank_of_isDigit (isDigit_of_mem_padded digit)
  ends := by
    intro c last
    have utc : moment.text.toList.getLast? = some 'Z' := by
      simp [Moment.toList_text, Moment.clockChars, List.getLast?_append, List.getLast?_cons]
    obtain rfl := Option.some.inj (utc.symm.trans last)
    rfl

/-- A written moment stays as it is: it is read as itself or taken for a version. -/
theorem normalize_text (clocked : moment.Clocked) : normalize moment.text = moment.text := by
  by_cases unsigned : 0 ≤ moment.date.year ∧ moment.date.year < 10000
  · rw [normalize, Moment.ofText?_text clocked unsigned.1 unsigned.2]
  · rw [normalize, Moment.ofText?_text_of_signed unsigned, Moment.dateOfText?_text]

theorem normalize_cases (literal : String) :
    normalize literal = literal ∨
      ∃ moment : Moment, moment.Clocked ∧ normalize literal = moment.text := by
  rw [normalize]
  cases timed : Moment.ofText? literal with
  | some moment =>
      obtain ⟨stamp, -, rfl⟩ := ofText?_eq_some_iff.mp timed
      exact .inr ⟨_, clocked_moment stamp, rfl⟩
  | none =>
      cases Date.ofText? literal with
      | some date => exact .inr ⟨_, clocked_midnight date, rfl⟩
      | none => exact .inl rfl

theorem normalize_normalize (literal : String) :
    normalize (normalize literal) = normalize literal := by
  rcases normalize_cases literal with same | ⟨moment, clocked, written⟩
  · rw [same, same]
  · rw [written, normalize_text clocked]

end Written

section Literals

/-- Whether a text asks for just what it says. -/
structure IsLiteral (text : String) : Prop where
  trimmed : Trimmed text.toList
  filled : text ≠ ""
  plain : Placeholder.path? text = none

theorem IsLiteral.resolve?_eq (literal : IsLiteral text) (dashboard : Json) :
    resolve? text dashboard = some (normalize text) := by
  have filled : ¬ text.isEmpty = true := mt String.isEmpty_iff.mp literal.filled
  rw [resolve?, literal?, trim_eq_self literal.trimmed, literal.plain]
  exact if_neg filled

theorem isLiteral_text (moment : Moment) : IsLiteral moment.text where
  trimmed := trimmed_text moment
  filled := by
    intro empty
    have chars := congrArg String.toList empty
    simp [Moment.toList_text, Moment.clockChars] at chars
  plain := path?_eq_none (brace_not_mem_text moment)

theorem IsLiteral.normalize (literal : IsLiteral text) : IsLiteral (normalize text) := by
  rcases normalize_cases text with same | ⟨moment, -, written⟩
  · rwa [same]
  · rw [written]
    exact isLiteral_text moment

/-- What is asked for without a placeholder is a literal between blanks. -/
theorem isLiteral_trim {dashboard : Json} (plain : Placeholder.path? (trim raw) = none)
    (asked : resolve? raw dashboard = some resolved) :
    IsLiteral (trim raw) ∧ AsOf.normalize (trim raw) = resolved := by
  simp only [resolve?, literal?, plain, Option.ite_none_left_eq_some, Option.some.injEq] at asked
  obtain ⟨filled, rfl⟩ := asked
  refine ⟨⟨?_, mt String.isEmpty_iff.mpr filled, plain⟩, rfl⟩
  rw [toList_trim]
  exact trimmed_trimChars raw.toList

/-- What a text without a placeholder is resolved to has no blanks at its ends, is not
empty, and is resolved to itself. -/
theorem resolution_idempotent {raw resolved : String} {dashboard : Json}
    (plain : Placeholder.path? (trim raw) = none)
    (asked : resolve? raw dashboard = some resolved) :
    Trimmed resolved.toList ∧ resolved ≠ "" ∧
      ∀ later, resolve? resolved later = some resolved := by
  obtain ⟨literal, rfl⟩ := isLiteral_trim plain asked
  have again := literal.normalize
  refine ⟨again.trimmed, again.filled, fun later => ?_⟩
  rw [again.resolve?_eq, normalize_normalize]

/-- A year before zero, a leap second, a loosely written date and a version stay as they
are resolved. -/
theorem resolved_literals_stay :
    (resolve? "0000-01-01T00:30:00+01:00" .null = some "-0001-12-31T23:30:00.000Z" ∧
      ∀ later, resolve? "-0001-12-31T23:30:00.000Z" later = some "-0001-12-31T23:30:00.000Z") ∧
    (resolve? "2016-12-31t23:59:60.5z" .null = some "2016-12-31T23:59:60.500Z" ∧
      ∀ later, resolve? "2016-12-31T23:59:60.500Z" later = some "2016-12-31T23:59:60.500Z") ∧
    (resolve? " +12345-6- 7" .null = some "+12345-06-07T00:00:00.000Z" ∧
      ∀ later, resolve? "+12345-06-07T00:00:00.000Z" later = some "+12345-06-07T00:00:00.000Z") ∧
    resolve? " v42 " .null = some "v42" ∧ ∀ later, resolve? "v42" later = some "v42" := by
  have early : resolve? "0000-01-01T00:30:00+01:00" .null = some "-0001-12-31T23:30:00.000Z" := by
    decide +kernel
  have leap : resolve? "2016-12-31t23:59:60.5z" .null = some "2016-12-31T23:59:60.500Z" := by
    decide +kernel
  have loose : resolve? " +12345-6- 7" .null = some "+12345-06-07T00:00:00.000Z" := by
    decide +kernel
  have version : resolve? " v42 " .null = some "v42" := by decide +kernel
  exact ⟨⟨early, (resolution_idempotent (by decide +kernel) early).2.2⟩,
    ⟨leap, (resolution_idempotent (by decide +kernel) leap).2.2⟩,
    ⟨loose, (resolution_idempotent (by decide +kernel) loose).2.2⟩,
    version, (resolution_idempotent (by decide +kernel) version).2.2⟩

end Literals

end Aggregation.AsOf
