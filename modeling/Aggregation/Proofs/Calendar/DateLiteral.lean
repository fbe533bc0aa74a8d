import Mathlib
import Aggregation.Calendar.Rfc3339
import Aggregation.Proofs.Calendar.DayNumber
import Aggregation.Proofs.Calendar.Timestamp
import Aggregation.Proofs.Text.Numeral

namespace Aggregation.Date

/-! Dates as they are read.

A date may be written loosely, but with few characters, and its last one is a digit.  Each
step of the reading takes some of these characters and leaves the rest.
-/

open Aggregation.Text

variable {text rest : List Char} {value width : Nat} {year : Int} {date : Date} {c : Char}

/-- The characters that a date may be written with. -/
def InText (c : Char) : Prop := isBlank c = true ∨ c.isDigit = true ∨ c = '-' ∨ c = '+'

/-- Whether nothing but characters of a date has been taken from a text. -/
def Leaves (text rest : List Char) : Prop :=
  ∃ taken, taken ++ rest = text ∧ ∀ c ∈ taken, InText c

theorem Leaves.trans {text middle rest : List Char} (first : Leaves text middle)
    (second : Leaves middle rest) : Leaves text rest := by
  obtain ⟨taken, rfl, known⟩ := first
  obtain ⟨more, rfl, known'⟩ := second
  exact ⟨taken ++ more, List.append_assoc .., List.forall_mem_append.mpr ⟨known, known'⟩⟩

theorem leaves_dropWhile {p : Char → Bool} (known : ∀ c, p c = true → InText c)
    (text : List Char) : Leaves text (text.dropWhile p) :=
  ⟨text.takeWhile p, List.takeWhile_append_dropWhile,
    fun c member => known c (List.mem_takeWhile_imp member)⟩

theorem leaves_tail (known : InText c) : Leaves (c :: rest) rest :=
  ⟨[c], rfl, List.forall_mem_singleton.mpr known⟩

theorem exists_digits (taken : takeNumber? width text = some (value, rest)) :
    ∃ digits, text.dropWhile isBlank = digits ++ rest ∧ digits ≠ [] ∧
      ∀ c ∈ digits, c.isDigit = true := by
  simp only [takeNumber?, Option.map_eq_some_iff, Prod.mk.injEq] at taken
  obtain ⟨_, read, rfl, rfl⟩ := taken
  obtain ⟨filled, numerals, -⟩ := numeral?_eq_some_iff.mp read
  have begins := (List.takeWhile_prefix Char.isDigit).trans
    (List.take_prefix width (text.dropWhile isBlank))
  exact ⟨_, (List.prefix_iff_eq_append.mp begins).symm, filled, numerals⟩

theorem leaves_number (taken : takeNumber? width text = some (value, rest)) :
    Leaves text rest := by
  obtain ⟨digits, begins, -, numerals⟩ := exists_digits taken
  have blanks : Leaves text (text.dropWhile isBlank) := leaves_dropWhile (fun _ => .inl) text
  exact blanks.trans ⟨digits, begins.symm, fun c member => .inr (.inl (numerals c member))⟩

theorem leaves_year (taken : takeYear? text = some (year, rest)) : Leaves text rest := by
  have blanks : Leaves text (text.dropWhile isBlank) := leaves_dropWhile (fun _ => .inl) text
  have digits (tail : List Char) : Leaves tail (tail.dropWhile Char.isDigit) :=
    leaves_dropWhile (fun _ digit => .inr (.inl digit)) tail
  refine blanks.trans ?_
  simp only [takeYear?] at taken
  split at taken
  · rename_i tail begins
    simp only [Option.map_map, Option.map_eq_some_iff, Function.comp_apply, Prod.mk.injEq] at taken
    obtain ⟨_, -, -, rfl⟩ := taken
    exact begins ▸ (leaves_tail (.inr (.inr (.inl rfl)))).trans (digits tail)
  · rename_i tail begins
    simp only [Option.map_map, Option.map_eq_some_iff, Function.comp_apply, Prod.mk.injEq] at taken
    obtain ⟨_, -, -, rfl⟩ := taken
    exact begins ▸ (leaves_tail (.inr (.inr (.inr rfl)))).trans (digits tail)
  · obtain ⟨⟨_, _⟩, read, same⟩ := Option.map_eq_some_iff.mp taken
    obtain ⟨-, rfl⟩ := Prod.mk.inj same
    exact leaves_number read

theorem leaves_dash (taken : takeOneOf? ['-'] text = some rest) : Leaves text rest := by
  obtain ⟨_, dash, rfl⟩ := takeOneOf?_eq_some_iff.mp taken
  exact leaves_tail (.inr (.inr (.inl (List.mem_singleton.mp dash))))

/-- A date has nothing but its own characters, and ends in a digit. -/
theorem ofChars?_spec (read : ofChars? text = some date) :
    date.Valid ∧ (∀ c ∈ text, InText c) ∧ ∃ front c, text = front ++ [c] ∧ c.isDigit = true := by
  simp only [ofChars?, do_eq_some_iff, Prod.exists, Option.guard_eq_some',
    List.isEmpty_iff, make?_eq_some_iff] at read
  obtain ⟨year, _, yearRead, _, firstDash, month, _, monthRead, _, secondDash, day, _, dayRead,
    _, rfl, -, valid, -⟩ := read
  obtain ⟨digits, begins, filled, numerals⟩ := exists_digits dayRead
  rw [List.append_nil] at begins
  have before := (leaves_year yearRead).trans ((leaves_dash firstDash).trans
    ((leaves_number monthRead).trans (leaves_dash secondDash)))
  obtain ⟨taken, rfl, known⟩ := before.trans (leaves_dropWhile (fun _ => .inl) _)
  rw [begins]
  refine ⟨valid, List.forall_mem_append.mpr
    ⟨known, fun c member => .inr (.inl (numerals c member))⟩, taken ++ digits.dropLast,
    digits.getLast filled, ?_, numerals _ (List.getLast_mem filled)⟩
  rw [List.append_assoc, List.dropLast_append_getLast]

theorem ofChars?_dropWhile (text : List Char) :
    ofChars? (text.dropWhile isBlank) = ofChars? text := by
  have year : takeYear? (text.dropWhile isBlank) = takeYear? text := by
    simp only [takeYear?, List.dropWhile_idempotent]
  rw [ofChars?, ofChars?, year]

end Aggregation.Date
