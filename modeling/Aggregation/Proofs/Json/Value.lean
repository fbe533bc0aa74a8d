import Aggregation.Json.Record

namespace Aggregation.Json

/-! What it is for a tree to be a value.

A tree is brought to normal form once: the result is a value, and a value stays as it is.
So a value may be kept, written and read any number of times.
-/

/-- Whether entries are sorted by their keys, none of which stands twice. -/
def Ascending (entries : List (String × Json)) : Prop :=
  entries.Pairwise fun entry later => entry.1 < later.1

/-- Whether a tree has nothing unreadable in it, and all its objects are ascending. -/
inductive IsValue : Json → Prop where
  | null : IsValue .null
  | bool (value : Bool) : IsValue (.bool value)
  | number (value : Number) : IsValue (.number value)
  | string (value : String) : IsValue (.string value)
  | array {items : List Json} (inside : ∀ item ∈ items, IsValue item) : IsValue (.array items)
  | object {entries : List (String × Json)} (sorted : Ascending entries)
      (inside : ∀ entry ∈ entries, IsValue entry.2) : IsValue (.object entries)

variable {key : String} {tree value : Json} {items values : List Json}
  {entries others : List (String × Json)} {entry : String × Json}

theorem mem_insertEntry (member : entry ∈ insertEntry key value entries) :
    entry = (key, value) ∨ entry ∈ entries := by
  induction entries with
  | nil => exact .inl (List.mem_singleton.mp member)
  | cons first rest ih =>
      rw [insertEntry] at member
      split at member
      · exact List.mem_cons.mp member
      · split at member
        · rcases List.mem_cons.mp member with rfl | later
          · exact .inl rfl
          · exact .inr (List.mem_cons_of_mem first later)
        · rcases List.mem_cons.mp member with rfl | later
          · exact .inr List.mem_cons_self
          · exact (ih later).imp_right (List.mem_cons_of_mem first)

theorem ascending_insertEntry (sorted : Ascending entries) (key : String) (value : Json) :
    Ascending (insertEntry key value entries) := by
  induction entries with
  | nil => exact List.pairwise_singleton _ _
  | cons first rest ih =>
      obtain ⟨least, later⟩ := List.pairwise_cons.mp sorted
      rw [insertEntry]
      split
      · next before =>
        refine List.pairwise_cons.mpr ⟨fun entry member => ?_, sorted⟩
        rcases List.mem_cons.mp member with rfl | member
        · exact before
        · exact String.lt_trans before (least entry member)
      · next notBefore =>
        split
        · next same =>
          subst same
          exact List.pairwise_cons.mpr ⟨least, later⟩
        · next differ =>
          have after : first.1 < key := by grind
          refine List.pairwise_cons.mpr ⟨fun entry member => ?_, ih later⟩
          rcases mem_insertEntry member with rfl | member
          · exact after
          · exact least entry member

theorem insertEntry_of_last (last : ∀ entry ∈ entries, entry.1 < key) :
    insertEntry key value entries = entries ++ [(key, value)] := by
  induction entries with
  | nil => rfl
  | cons first rest ih =>
      have before : first.1 < key := last first List.mem_cons_self
      have later := ih fun entry member => last entry (List.mem_cons_of_mem first member)
      rw [insertEntry, if_neg (String.lt_asymm before), later, List.cons_append]
      exact if_neg fun same : key = first.1 => String.lt_irrefl key (same ▸ before)

theorem foldl_insertEntry_of_sorted (sorted : Ascending (others ++ entries)) :
    entries.foldl (fun kept (key, value) => insertEntry key value kept) others =
      others ++ entries := by
  induction entries generalizing others with
  | nil => exact (List.append_nil others).symm
  | cons first rest ih =>
      have regrouped : others ++ first :: rest = others ++ [first] ++ rest := by
        rw [List.append_assoc, List.singleton_append]
      have last : ∀ entry ∈ others, entry.1 < first.1 := fun entry member =>
        (List.pairwise_append.mp sorted).2.2 entry member first List.mem_cons_self
      rw [regrouped] at sorted ⊢
      change rest.foldl _ (insertEntry first.1 first.2 others) = _
      rw [insertEntry_of_last last]
      exact ih sorted

theorem sortEntries_of_sorted (sorted : Ascending entries) :
    sortEntries entries = entries := by
  have alone : Ascending ([] ++ entries) := sorted
  exact foldl_insertEntry_of_sorted alone

theorem ascending_foldl_insertEntry (sorted : Ascending others) :
    Ascending (entries.foldl (fun kept (key, value) => insertEntry key value kept) others) := by
  induction entries generalizing others with
  | nil => exact sorted
  | cons first rest ih => exact ih (ascending_insertEntry sorted first.1 first.2)

theorem mem_foldl_insertEntry
    (member : entry ∈ entries.foldl (fun kept (key, value) => insertEntry key value kept) others) :
    entry ∈ entries ∨ entry ∈ others := by
  induction entries generalizing others with
  | nil => exact .inr member
  | cons first rest ih =>
      rcases ih member with later | earlier
      · exact .inl (List.mem_cons_of_mem first later)
      · rcases mem_insertEntry earlier with rfl | old
        · exact .inl List.mem_cons_self
        · exact .inr old

theorem ascending_sortEntries (entries : List (String × Json)) : Ascending (sortEntries entries) :=
  ascending_foldl_insertEntry List.Pairwise.nil

theorem mem_of_mem_sortEntries (member : entry ∈ sortEntries entries) : entry ∈ entries :=
  (mem_foldl_insertEntry member).resolve_right List.not_mem_nil

theorem values?_eq_self (each : ∀ item ∈ items, item.value? = some item) :
    values? items = some items := by
  induction items with
  | nil => rfl
  | cons first rest ih =>
      have head := each first List.mem_cons_self
      have tail := ih fun item member => each item (List.mem_cons_of_mem first member)
      simp [values?, head, tail]

theorem entryValues?_eq_self (each : ∀ entry ∈ entries, entry.2.value? = some entry.2) :
    entryValues? entries = some entries := by
  induction entries with
  | nil => rfl
  | cons first rest ih =>
      have head := each first List.mem_cons_self
      have tail := ih fun entry member => each entry (List.mem_cons_of_mem first member)
      simp [entryValues?, head, tail]

theorem entryValues?_nil : entryValues? [] = some [] := rfl

theorem entryValues?_cons (key : String) (head : tree.value? = some value)
    (tail : entryValues? entries = some others) :
    entryValues? ((key, tree) :: entries) = some ((key, value) :: others) := by
  simp [entryValues?, head, tail]

/-- A value is its own normal form. -/
theorem IsValue.value?_eq (isValue : tree.IsValue) : tree.value? = some tree := by
  induction isValue with
  | null | bool | number | string => rfl
  | array _ ih => rw [value?, values?_eq_self ih, Option.map_some]
  | object sorted _ ih =>
      rw [value?, entryValues?_eq_self ih, Option.map_some, sortEntries_of_sorted sorted]

mutual

theorem isValue_of_value? : (tree : Json) → {value : Json} → tree.value? = some value →
    value.IsValue
  | .null, _, rfl => .null
  | .bool flag, _, rfl => .bool flag
  | .number value, _, rfl => .number value
  | .string text, _, rfl => .string text
  | .array items, value, denoted => by
      obtain ⟨values, each, rfl⟩ := Option.map_eq_some_iff.mp denoted
      exact .array (isValue_of_values? items each)
  | .object entries, value, denoted => by
      obtain ⟨values, each, rfl⟩ := Option.map_eq_some_iff.mp denoted
      refine .object (ascending_sortEntries values) fun entry member => ?_
      exact isValue_of_entryValues? entries each entry (mem_of_mem_sortEntries member)
  | .unreadable, _, denoted => by contradiction

theorem isValue_of_values? : (items : List Json) → {values : List Json} →
    values? items = some values → ∀ value ∈ values, value.IsValue
  | [], _, rfl => nofun
  | item :: rest, values, each => by
      obtain ⟨first, head, each⟩ := Option.bind_eq_some_iff.mp each
      obtain ⟨others, tail, same⟩ := Option.bind_eq_some_iff.mp each
      cases same
      exact List.forall_mem_cons.mpr ⟨isValue_of_value? item head, isValue_of_values? rest tail⟩

theorem isValue_of_entryValues? : (entries : List (String × Json)) →
    {values : List (String × Json)} → entryValues? entries = some values →
      ∀ entry ∈ values, entry.2.IsValue
  | [], _, rfl => nofun
  | (key, item) :: rest, values, each => by
      obtain ⟨first, head, each⟩ := Option.bind_eq_some_iff.mp each
      obtain ⟨others, tail, same⟩ := Option.bind_eq_some_iff.mp each
      cases same
      exact List.forall_mem_cons.mpr
        ⟨isValue_of_value? item head, isValue_of_entryValues? rest tail⟩

end

theorem IsValue.readable (isValue : tree.IsValue) : tree.readable = true := by
  rw [Json.readable, isValue.value?_eq, Option.isSome_some]

end Aggregation.Json
