import Aggregation.Json.Basic

namespace Aggregation.Json

/-! Induction over trees, and the strings in them. -/

theorem sizeOf_entry_lt {entry : String × Json} {entries : List (String × Json)}
    (member : entry ∈ entries) : sizeOf entry.2 < 1 + sizeOf entries := by
  have within := List.sizeOf_lt_of_mem member
  obtain ⟨key, value⟩ := entry
  simp only [Prod.mk.sizeOf_spec] at within
  simp only
  omega

/-- A property of trees that passes from their items and entries to them holds of all. -/
theorem induction {motive : Json → Prop} (null : motive .null)
    (bool : ∀ value, motive (.bool value)) (number : ∀ value, motive (.number value))
    (string : ∀ text, motive (.string text))
    (array : ∀ items, (∀ item ∈ items, motive item) → motive (.array items))
    (object : ∀ entries, (∀ entry ∈ entries, motive entry.2) → motive (.object entries))
    (unreadable : motive .unreadable) : ∀ tree, motive tree
  | .null => null
  | .bool value => bool value
  | .number value => number value
  | .string text => string text
  | .array items => array items fun item _ =>
      induction null bool number string array object unreadable item
  | .object entries => object entries fun entry member =>
      have := sizeOf_entry_lt member
      induction null bool number string array object unreadable entry.2
  | .unreadable => unreadable

/-- Whether a text is one of the strings of a tree, which its keys are not. -/
inductive HasString (text : String) : Json → Prop where
  | here : HasString text (.string text)
  | item {items : List Json} {item : Json} :
      item ∈ items → HasString text item → HasString text (.array items)
  | entry {entries : List (String × Json)} {entry : String × Json} :
      entry ∈ entries → HasString text entry.2 → HasString text (.object entries)

variable {text : String}

theorem hasString_string_iff {written : String} :
    (Json.string written).HasString text ↔ text = written := by
  refine ⟨fun inside => ?_, ?_⟩
  · cases inside
    rfl
  · rintro rfl
    exact .here

theorem hasString_array_iff {items : List Json} :
    (Json.array items).HasString text ↔ ∃ item ∈ items, item.HasString text := by
  refine ⟨fun inside => ?_, fun ⟨item, member, inside⟩ => .item member inside⟩
  cases inside with
  | item member inside => exact ⟨_, member, inside⟩

theorem hasString_object_iff {entries : List (String × Json)} :
    (Json.object entries).HasString text ↔ ∃ entry ∈ entries, entry.2.HasString text := by
  refine ⟨fun inside => ?_, fun ⟨entry, member, inside⟩ => .entry member inside⟩
  cases inside with
  | entry member inside => exact ⟨_, member, inside⟩

end Aggregation.Json
