import Mathlib
import Aggregation.Text.Numeral

namespace Aggregation.Text

/-! Numerals of a fixed width.

Numbers that are written with equally many digits are in the order of their texts, and a
text of digits is the numeral of its value.
-/

variable {c d : Char} {digits first second rest others : List Char} {width value other : Nat}

/-- Texts that begin with equally many characters are in the order of these, and for equal
ones in the order of what follows. -/
theorem append_lt_append_iff (same : first.length = second.length) :
    first ++ rest < second ++ others ↔ first < second ∨ first = second ∧ rest < others := by
  induction first generalizing second with
  | nil =>
      obtain rfl := List.eq_nil_of_length_eq_zero same.symm
      simp
  | cons c tail ih =>
      cases second with
      | nil => contradiction
      | cons d tail' =>
          rw [List.cons_append, List.cons_append, List.cons_lt_cons_iff, List.cons_lt_cons_iff,
            ih (Nat.succ.inj same), List.cons.injEq, and_or_left, and_assoc, or_assoc]

section Digits

theorem digit_bounds (digit : c.isDigit = true) : 48 ≤ c.toNat ∧ c.toNat ≤ 57 :=
  Char.isDigit_iff_toNat.mp digit

theorem digitValue_eq (c : Char) : digitValue c = c.toNat - 48 := rfl

theorem digitValue_lt_ten (digit : c.isDigit = true) : digitValue c < 10 := by
  have bounds := digit_bounds digit
  rw [digitValue_eq]
  omega

theorem digitValue_lt_iff (left : c.isDigit = true) (right : d.isDigit = true) :
    digitValue c < digitValue d ↔ c < d := by
  have leftBounds := digit_bounds left
  have rightBounds := digit_bounds right
  change c.toNat - 48 < d.toNat - 48 ↔ c.toNat < d.toNat
  omega

theorem digitValue_inj (left : c.isDigit = true) (right : d.isDigit = true) :
    digitValue c = digitValue d ↔ c = d := by
  have leftBounds := digit_bounds left
  have rightBounds := digit_bounds right
  rw [← Char.toNat_inj, digitValue_eq, digitValue_eq]
  omega

end Digits

section Values

theorem numeralValue_eq (digits : List Char) :
    numeralValue digits = Nat.ofDigitChars 10 digits 0 := by
  rw [numeralValue, Nat.ofDigitChars]
  congr
  funext value c
  rw [Nat.mul_comm, digitValue]

theorem numeralValue_append (first second : List Char) :
    numeralValue (first ++ second) =
      numeralValue first * 10 ^ second.length + numeralValue second := by
  induction second using List.reverseRecOn with
  | nil => simp [numeralValue]
  | append_singleton second c ih =>
      have last (digits : List Char) :
          numeralValue (digits ++ [c]) = numeralValue digits * 10 + digitValue c := by
        rw [numeralValue, List.foldl_append]
        rfl
      rw [← List.append_assoc, last, last, ih, List.length_append, List.length_singleton, pow_succ]
      ring

theorem numeralValue_cons (c : Char) (digits : List Char) :
    numeralValue (c :: digits) = digitValue c * 10 ^ digits.length + numeralValue digits := by
  have one : numeralValue [c] = digitValue c := Nat.zero_add _
  rw [← List.singleton_append, numeralValue_append, one]

theorem numeralValue_lt (numerals : ∀ c ∈ digits, c.isDigit = true) :
    numeralValue digits < 10 ^ digits.length := by
  induction digits with
  | nil => exact Nat.one_pos
  | cons c rest ih =>
      obtain ⟨digit, others⟩ := List.forall_mem_cons.mp numerals
      have below := ih others
      have single := digitValue_lt_ten digit
      rw [numeralValue_cons, List.length_cons, pow_succ]
      nlinarith

/-- Of two numbers whose digits have the same places, the first digit decides. -/
theorem place_lt_iff {high low high' low' unit : Nat} (below : low < unit) (below' : low' < unit) :
    high * unit + low < high' * unit + low' ↔ high < high' ∨ high = high' ∧ low < low' := by
  rcases Nat.lt_trichotomy high high' with less | rfl | more
  · have above : high * unit + unit ≤ high' * unit := by
      rw [← Nat.succ_mul]
      exact Nat.mul_le_mul_right unit less
    omega
  · omega
  · have above : high' * unit + unit ≤ high * unit := by
      rw [← Nat.succ_mul]
      exact Nat.mul_le_mul_right unit more
    omega

/-- Texts of equally many digits are in the order of their values. -/
theorem numeralValue_lt_iff (left : ∀ c ∈ first, c.isDigit = true)
    (right : ∀ c ∈ second, c.isDigit = true) (same : first.length = second.length) :
    numeralValue first < numeralValue second ↔ first < second := by
  induction first generalizing second with
  | nil =>
      obtain rfl := List.eq_nil_of_length_eq_zero same.symm
      simp
  | cons c rest ih =>
      cases second with
      | nil => exact absurd same (Nat.succ_ne_zero rest.length)
      | cons d others =>
          obtain ⟨leftDigit, left⟩ := List.forall_mem_cons.mp left
          obtain ⟨rightDigit, right⟩ := List.forall_mem_cons.mp right
          have equally : rest.length = others.length := Nat.succ.inj same
          rw [numeralValue_cons, numeralValue_cons, List.cons_lt_cons_iff, equally,
            place_lt_iff (equally ▸ numeralValue_lt left) (numeralValue_lt right),
            digitValue_lt_iff leftDigit rightDigit, digitValue_inj leftDigit rightDigit,
            ih left right equally]

theorem numeralValue_inj (left : ∀ c ∈ first, c.isDigit = true)
    (right : ∀ c ∈ second, c.isDigit = true) (same : first.length = second.length) :
    numeralValue first = numeralValue second ↔ first = second := by
  refine ⟨fun equal => ?_, congrArg numeralValue⟩
  have notBelow := mt (numeralValue_lt_iff left right same).mpr (Nat.not_lt.mpr equal.ge)
  have notAbove := mt (numeralValue_lt_iff right left same.symm).mpr (Nat.not_lt.mpr equal.le)
  exact le_antisymm (not_lt.mp notAbove) (not_lt.mp notBelow)

theorem numeral?_eq_some_iff :
    numeral? digits = some value ↔
      digits ≠ [] ∧ (∀ c ∈ digits, c.isDigit = true) ∧ numeralValue digits = value := by
  simp [numeral?, and_assoc]

end Values

section Padding

theorem toList_padded (width value : Nat) :
    (padded width value).toList =
      List.replicate (width - (Nat.toDigits 10 value).length) '0' ++ Nat.toDigits 10 value :=
  String.toList_ofList

theorem isDigit_of_mem_padded (member : c ∈ (padded width value).toList) : c.isDigit = true := by
  rw [toList_padded, List.mem_append] at member
  rcases member with zero | digit
  · rw [List.eq_of_mem_replicate zero]
    rfl
  · exact Nat.isDigit_of_mem_toDigits (by decide) (by decide) digit

theorem numeralValue_padded (width value : Nat) :
    numeralValue (padded width value).toList = value := by
  rw [toList_padded, numeralValue_eq, Nat.ofDigitChars_append, Nat.ofDigitChars_replicate_zero,
    Nat.mul_zero, Nat.ofDigitChars_toDigits (by decide) (by decide)]

theorem length_padded (positive : 0 < width) (fits : value < 10 ^ width) :
    (padded width value).toList.length = width := by
  have short := (Nat.length_toDigits_le_iff (by decide) positive).mpr fits
  rw [toList_padded, List.length_append, List.length_replicate]
  omega

theorem padded_ne_nil (width value : Nat) : (padded width value).toList ≠ [] := by
  rw [toList_padded]
  exact List.append_ne_nil_of_right_ne_nil _ Nat.toDigits_ne_nil

/-- A text of digits is the numeral of its value in its own width. -/
theorem padded_numeralValue (filled : digits ≠ [])
    (numerals : ∀ c ∈ digits, c.isDigit = true) :
    (padded digits.length (numeralValue digits)).toList = digits := by
  have wide := length_padded (List.length_pos_iff.mpr filled) (numeralValue_lt numerals)
  refine (numeralValue_inj (fun _ => isDigit_of_mem_padded) numerals wide).mp ?_
  exact numeralValue_padded _ _

theorem padded_append_lt_iff (positive : 0 < width) (fits : value < 10 ^ width)
    (fits' : other < 10 ^ width) :
    (padded width value).toList ++ rest < (padded width other).toList ++ others ↔
      value < other ∨ value = other ∧ rest < others := by
  have same := (length_padded positive fits).trans (length_padded positive fits').symm
  have left : ∀ c ∈ (padded width value).toList, c.isDigit = true := fun _ =>
    isDigit_of_mem_padded
  have right : ∀ c ∈ (padded width other).toList, c.isDigit = true := fun _ =>
    isDigit_of_mem_padded
  rw [append_lt_append_iff same, ← numeralValue_lt_iff left right same,
    ← numeralValue_inj left right same, numeralValue_padded, numeralValue_padded]

theorem padded_append_inj (positive : 0 < width) (fits : value < 10 ^ width)
    (fits' : other < 10 ^ width)
    (same : (padded width value).toList ++ rest = (padded width other).toList ++ others) :
    value = other ∧ rest = others := by
  obtain ⟨numerals, rests⟩ := List.append_inj same
    ((length_padded positive fits).trans (length_padded positive fits').symm)
  refine ⟨?_, rests⟩
  rw [← numeralValue_padded width value, numerals, numeralValue_padded]

end Padding

end Aggregation.Text
