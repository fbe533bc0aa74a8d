import Mathlib.Data.List.Forall2
import Aggregation.Proofs.Json.Value

namespace Aggregation.Json

/-! Lists and members that are read. -/

variable {α : Type} {read : Json → Option α} {tree item value : Json} {items : List Json}
  {entries : List (String × Json)} {results : List α} {result : α} {position : Nat} {key : String}

theorem mapM_eq_some_iff :
    items.mapM read = some results ↔
      List.Forall₂ (fun item result => read item = some result) items results := by
  induction items generalizing results with
  | nil => simp [eq_comm]
  | cons first rest ih =>
      rw [List.mapM_cons]
      constructor
      · intro succeeded
        obtain ⟨head, one, succeeded⟩ := Option.bind_eq_some_iff.mp succeeded
        obtain ⟨tail, others, same⟩ := Option.bind_eq_some_iff.mp succeeded
        cases same
        exact .cons one (ih.mp others)
      · intro each
        cases each with
        | cons one others => simp [one, ih.mpr others]

theorem exists_of_mem_mapM (succeeded : items.mapM read = some results)
    (member : result ∈ results) : ∃ item ∈ items, read item = some result := by
  have each := mapM_eq_some_iff.mp succeeded
  clear succeeded
  induction each with
  | nil => contradiction
  | cons one _ ih =>
      rcases List.mem_cons.mp member with rfl | later
      · exact ⟨_, List.mem_cons_self, one⟩
      · obtain ⟨item, inside, given⟩ := ih later
        exact ⟨item, List.mem_cons_of_mem _ inside, given⟩

theorem exists_of_mapM (succeeded : items.mapM read = some results) :
    ∀ item ∈ items, ∃ result, read item = some result := by
  have each := mapM_eq_some_iff.mp succeeded
  clear succeeded
  induction each with
  | nil => exact fun _ member => (List.not_mem_nil member).elim
  | cons one _ ih => exact List.forall_mem_cons.mpr ⟨⟨_, one⟩, ih⟩

theorem exists_mapM (each : ∀ item ∈ items, ∃ result, read item = some result) :
    ∃ results, items.mapM read = some results := by
  induction items with
  | nil => exact ⟨[], rfl⟩
  | cons first rest ih =>
      obtain ⟨⟨result, one⟩, each⟩ := List.forall_mem_cons.mp each
      obtain ⟨results, others⟩ := ih each
      exact ⟨result :: results, by simp [List.mapM_cons, one, others]⟩

theorem list?_eq_some_iff :
    list? read tree = some results ↔ ∃ items, tree = .array items ∧ items.mapM read = some results := by
  cases tree <;> simp [list?]

theorem readable_of_values? {values : List Json} (each : values? items = some values)
    (member : item ∈ items) : item.readable = true := by
  induction items generalizing values with
  | nil => contradiction
  | cons first rest ih =>
      obtain ⟨head, one, each⟩ := Option.bind_eq_some_iff.mp each
      obtain ⟨tail, others, -⟩ := Option.bind_eq_some_iff.mp each
      rcases List.mem_cons.mp member with rfl | later
      · rw [readable, one, Option.isSome_some]
      · exact ih others later

theorem readable_of_mem (whole : (Json.array items).readable = true) (member : item ∈ items) :
    item.readable = true := by
  obtain ⟨value, denoted⟩ := Option.isSome_iff_exists.mp whole
  obtain ⟨values, each, -⟩ := Option.map_eq_some_iff.mp denoted
  exact readable_of_values? each member

theorem readable_of_entryValues? {values : List (String × Json)}
    (each : entryValues? entries = some values) (found : entries.lookup key = some value) :
    value.readable = true := by
  induction entries generalizing values with
  | nil => contradiction
  | cons first rest ih =>
      obtain ⟨head, one, each⟩ := Option.bind_eq_some_iff.mp each
      obtain ⟨tail, others, -⟩ := Option.bind_eq_some_iff.mp each
      rw [List.lookup_cons] at found
      split at found
      · cases found
        rw [readable, one, Option.isSome_some]
      · exact ih others found

/-- What is read whole has members that are read whole. -/
theorem readable_of_member? (whole : tree.readable = true)
    (found : tree.member? position key = some value) : value.readable = true := by
  cases tree with
  | object entries =>
      obtain ⟨_, denoted⟩ := Option.isSome_iff_exists.mp whole
      obtain ⟨values, each, -⟩ := Option.map_eq_some_iff.mp denoted
      exact readable_of_entryValues? each found
  | array items => exact readable_of_mem whole (List.mem_of_getElem? found)
  | _ => contradiction

section Slots

variable {slot : Option Json}

theorem text_of_defaulted {absent text : String} (succeeded : defaulted absent text? slot = some text) :
    ∀ tree, slot = some tree → ∃ text, tree = .string text := by
  rintro tree rfl
  cases tree with
  | string text => exact ⟨text, rfl⟩
  | _ => contradiction

theorem exists_defaulted_text (absent : String)
    (texts : ∀ tree, slot = some tree → ∃ text, tree = .string text) :
    ∃ text, defaulted absent text? slot = some text := by
  cases slot with
  | none => exact ⟨absent, rfl⟩
  | some tree =>
      obtain ⟨text, rfl⟩ := texts tree rfl
      exact ⟨text, rfl⟩

theorem exists_optional_value (readable : ∀ tree, slot = some tree → tree.readable = true) :
    ∃ value, optional value? slot = some value := by
  cases slot with
  | none => exact ⟨none, rfl⟩
  | some tree =>
      obtain ⟨value, denoted⟩ := Option.isSome_iff_exists.mp (readable tree rfl)
      cases tree with
      | null => exact ⟨none, rfl⟩
      | _ => exact ⟨some value, by simp [optional, denoted]⟩

end Slots

end Aggregation.Json
