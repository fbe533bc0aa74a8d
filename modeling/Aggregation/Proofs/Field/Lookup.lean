import Aggregation.Field.Basic

namespace Aggregation

/-! Fields by name and by path.

Among fields with distinct names each is found by its own name.  It is found by its
name taken as a path just if that name has no dot, since a path is cut at its dots
and ends at a field that is named like its last piece.
-/

namespace Text

variable {separator : Char} {text piece : List Char}

theorem splitChars_of_not_mem (absent : separator ∉ text) :
    splitChars separator text = [text] := by
  induction text with
  | nil => rfl
  | cons c rest ih =>
      have other : c ≠ separator := fun same => absent (same ▸ List.mem_cons_self)
      have tail : separator ∉ rest := fun member => absent (List.mem_cons_of_mem c member)
      rw [splitChars, if_neg other, ih tail]

theorem not_mem_of_mem_splitChars (member : piece ∈ splitChars separator text) :
    separator ∉ piece := by
  induction text generalizing piece with
  | nil =>
      obtain rfl := List.mem_singleton.mp member
      exact List.not_mem_nil
  | cons c rest ih =>
      rw [splitChars] at member
      split at member
      · rcases List.mem_cons.mp member with rfl | later
        · exact List.not_mem_nil
        · exact ih later
      · next other =>
        have first {letters : List Char} (clean : separator ∉ letters) :
            separator ∉ c :: letters := by
          rw [List.mem_cons, not_or]
          exact ⟨fun same => other same.symm, clean⟩
        split at member
        · obtain rfl := List.mem_singleton.mp member
          exact first List.not_mem_nil
        · next head tail cut =>
          rw [cut] at ih
          rcases List.mem_cons.mp member with rfl | later
          · exact first (ih List.mem_cons_self)
          · exact ih (List.mem_cons_of_mem head later)

theorem split_of_not_mem {text : String} (absent : separator ∉ text.toList) :
    split separator text = [text] := by
  rw [split, splitChars_of_not_mem absent, List.map_singleton, String.ofList_toList]

theorem not_mem_of_mem_split {text piece : String} (member : piece ∈ split separator text) :
    separator ∉ piece.toList := by
  obtain ⟨letters, inside, rfl⟩ := List.mem_map.mp member
  rw [String.toList_ofList]
  exact not_mem_of_mem_splitChars inside

end Text

namespace Field

variable {fields added : List Field} {field other : Field} {name path : String}
  {segments : List String}

theorem mem_of_find? (found : find? fields name = some field) : field ∈ fields :=
  List.mem_of_find?_eq_some found

theorem name_of_find? (found : find? fields name = some field) : field.name = name :=
  eq_of_beq (List.find?_some found :)

theorem find?_eq_none_iff : find? fields name = none ↔ name ∉ names fields := by
  simp [find?, names]

theorem find?_name (distinct : (names fields).Nodup) (member : field ∈ fields) :
    find? fields field.name = some field := by
  induction fields with
  | nil => contradiction
  | cons first rest ih =>
      obtain ⟨unlike, distinct⟩ := List.nodup_cons.mp distinct
      rcases List.mem_cons.mp member with rfl | later
      · exact List.find?_cons_of_pos (beq_self_eq_true _)
      · have named : field.name ∈ names rest := List.mem_map_of_mem later
        have differ : first.name ≠ field.name := by
          intro same
          rw [← same] at named
          exact unlike named
        have skipped : find? (first :: rest) field.name = find? rest field.name :=
          List.find?_cons_of_neg (by simpa using differ)
        rw [skipped, ih distinct later]

theorem mem_of_mem_put (member : other ∈ put fields field) : other = field ∨ other ∈ fields := by
  induction fields with
  | nil => exact .inl (List.mem_singleton.mp member)
  | cons first rest ih =>
      rw [put] at member
      split at member
      · exact (List.mem_cons.mp member).imp_right (List.mem_cons_of_mem first)
      · rcases List.mem_cons.mp member with rfl | later
        · exact .inr List.mem_cons_self
        · exact (ih later).imp_right (List.mem_cons_of_mem first)

/-- A field takes the place of the one with its name, and a new name comes last. -/
theorem names_put (fields : List Field) (field : Field) :
    names (put fields field) =
      if field.name ∈ names fields then names fields else names fields ++ [field.name] := by
  induction fields with
  | nil => rfl
  | cons first rest ih =>
      by_cases same : first.name = field.name
      · simp [put, names, same]
      · have step : names (put (first :: rest) field) = first.name :: names (put rest field) := by
          rw [put, if_neg same, names, List.map_cons, names]
        have later : field.name ∈ names (first :: rest) ↔ field.name ∈ names rest := by
          simp [names, Ne.symm same]
        rw [step, ih]
        simp only [later]
        split <;> rfl

theorem mem_names_put {name : String} :
    name ∈ names (put fields field) ↔ name ∈ names fields ∨ name = field.name := by
  rw [names_put]
  split
  · next there =>
    refine ⟨.inl, ?_⟩
    intro either
    cases either with
    | inl old => exact old
    | inr same => exact same ▸ there
  · rw [List.mem_append, List.mem_singleton]

theorem nodup_names_put (distinct : (names fields).Nodup) (field : Field) :
    (names (put fields field)).Nodup := by
  rw [names_put]
  split
  · exact distinct
  · next fresh => exact List.nodup_append.mpr ⟨distinct, by simp, by grind⟩

theorem nodup_names_foldl_put (distinct : (names fields).Nodup) (added : List Field) :
    (names (added.foldl put fields)).Nodup := by
  induction added generalizing fields with
  | nil => exact distinct
  | cons first rest ih => exact ih (nodup_names_put distinct first)

theorem mem_of_mem_foldl_put (member : field ∈ added.foldl put fields) :
    field ∈ added ∨ field ∈ fields := by
  induction added generalizing fields with
  | nil => exact .inr member
  | cons first rest ih =>
      rcases ih member with later | earlier
      · exact .inl (List.mem_cons_of_mem first later)
      · rcases mem_of_mem_put earlier with rfl | old
        · exact .inl List.mem_cons_self
        · exact .inr old

theorem mem_names_foldl_put {name : String} :
    name ∈ names (added.foldl put fields) ↔ name ∈ names fields ∨ name ∈ names added := by
  induction added generalizing fields with
  | nil => simp [names]
  | cons first rest ih =>
      have head : name ∈ names (first :: rest) ↔ name = first.name ∨ name ∈ names rest :=
        List.mem_cons
      rw [List.foldl_cons, ih, mem_names_put, head, or_assoc]

/-- No name is lost where fields with the same name become one. -/
theorem mem_names_distinct {name : String} :
    name ∈ names (distinct fields) ↔ name ∈ names fields := by
  rw [distinct, mem_names_foldl_put]
  exact ⟨fun found => found.resolve_left List.not_mem_nil, .inr⟩

theorem nodup_names_distinct (fields : List Field) : (names (distinct fields)).Nodup := by
  have none : (names []).Nodup := List.nodup_nil
  exact nodup_names_foldl_put none fields

theorem mem_of_mem_distinct (member : field ∈ distinct fields) : field ∈ fields :=
  (mem_of_mem_foldl_put member).resolve_right List.not_mem_nil

/-- Walking down ends at a field that is named like the last segment. -/
theorem name_mem_of_descend? (found : descend? fields segments = some field) :
    field.name ∈ segments := by
  fun_induction descend? fields segments with
  | case1 => contradiction
  | case2 fields segment =>
      rw [name_of_find? found]
      exact List.mem_singleton_self segment
  | case3 fields segment rest _ ih =>
      obtain ⟨outer, -, below⟩ := Option.bind_eq_some_iff.mp found
      exact List.mem_cons_of_mem segment (ih outer below)

/-- What fields have in common with all their children, the field at a path has too. -/
theorem descend?_keeps {Holds : Field → Prop}
    (inherits : ∀ field, Holds field → ∀ child ∈ field.children, Holds child)
    (holds : ∀ field ∈ fields, Holds field) (found : descend? fields segments = some field) :
    Holds field := by
  fun_induction descend? fields segments with
  | case1 => contradiction
  | case2 fields segment => exact holds field (mem_of_find? found)
  | case3 fields segment rest _ ih =>
      obtain ⟨outer, there, below⟩ := Option.bind_eq_some_iff.mp found
      exact ih outer (inherits outer (holds outer (mem_of_find? there))) below

theorem resolve?_of_undotted (undotted : '.' ∉ path.toList) :
    resolve? fields path = find? fields path := by
  rw [resolve?, Text.split_of_not_mem undotted, descend?]

/-- Among distinct names, a field's own name leads to it as a path just if it has no
dot. -/
theorem resolve?_name_iff (distinct : (names fields).Nodup) (member : field ∈ fields) :
    resolve? fields field.name = some field ↔ '.' ∉ field.name.toList := by
  constructor
  · intro found
    exact Text.not_mem_of_mem_split (name_mem_of_descend? found)
  · intro undotted
    rw [resolve?_of_undotted undotted, find?_name distinct member]

end Field

end Aggregation
