import Mathlib.Data.List.DropRight
import Aggregation.Text.Blank

namespace Aggregation.Text

/-! Texts without blanks at their ends.

Trimming leaves such a text of any text, and leaves a text alone just if it is one.
-/

/-- Whether a text neither begins nor ends with a blank. -/
structure Trimmed (text : List Char) : Prop where
  begins : ∀ c, text.head? = some c → isBlank c = false
  ends : ∀ c, text.getLast? = some c → isBlank c = false

variable {text : List Char}

theorem trimChars_eq (text : List Char) :
    trimChars text = (text.dropWhile isBlank).rdropWhile isBlank := rfl

theorem trimmed_trimChars (text : List Char) : Trimmed (trimChars text) where
  begins := by
    intro c first
    -- Nothing but an end is taken off what is left of the beginning.
    obtain ⟨taken, whole⟩ := List.rdropWhile_prefix isBlank (text.dropWhile isBlank)
    have kept : (text.dropWhile isBlank).head? = some c := by
      rw [← whole, List.head?_append, ← trimChars_eq, first, Option.some_or]
    have solid := List.head?_dropWhile_not isBlank text
    rw [kept] at solid
    exact solid
  ends := by
    intro c last
    obtain ⟨filled, rfl⟩ := List.mem_getLast?_eq_getLast last
    have solid := List.rdropWhile_last_not isBlank (text.dropWhile isBlank) filled
    exact Bool.eq_false_iff.mpr solid

theorem Trimmed.trimChars_eq (trimmed : Trimmed text) : trimChars text = text := by
  have begun : text.dropWhile isBlank = text := by
    cases text with
    | nil => rfl
    | cons c rest =>
        have solid := trimmed.begins c rfl
        exact List.dropWhile_cons_of_neg (by rw [solid]; decide)
  rw [Text.trimChars_eq, begun, List.rdropWhile_eq_self_iff]
  intro filled
  have solid := trimmed.ends _ (List.getLast?_eq_some_getLast filled)
  rw [solid]
  decide

theorem trimChars_trimChars (text : List Char) : trimChars (trimChars text) = trimChars text :=
  (trimmed_trimChars text).trimChars_eq

theorem toList_trim (text : String) : (trim text).toList = trimChars text.toList :=
  String.toList_ofList

theorem trim_eq_self {text : String} (trimmed : Trimmed text.toList) : trim text = text := by
  rw [trim, trimmed.trimChars_eq, String.ofList_toList]

end Aggregation.Text
