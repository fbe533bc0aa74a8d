import Mathlib.Data.List.Basic
import Aggregation.Proofs.Field.Lookup

namespace Aggregation.Field

/-! Fields put over others, one after the other.

Each name keeps the position at which it first stood, and has the schema that was put
under it last.  So a run of puts comes to two things, the names that it leaves and what is
found under each of them, and the two together give the whole list.
-/

variable {fields added : List Field} {field : Field} {name : String}

theorem find?_put (fields : List Field) (field : Field) (name : String) :
    find? (put fields field) name =
      if field.name = name then some field else find? fields name := by
  induction fields with
  | nil => by_cases same : field.name = name <;> simp [put, find?, same]
  | cons first rest ih =>
      unfold find? at ih ⊢
      by_cases replaced : first.name = field.name
      · by_cases same : field.name = name <;> simp [put, replaced, same]
      · rw [put, if_neg replaced, List.find?_cons, List.find?_cons, ih]
        cases here : first.name == name with
        | false => rfl
        | true =>
            have other : field.name ≠ name := fun same => replaced (eq_of_beq here ▸ same.symm)
            exact (if_neg other).symm

/-- The last of some fields to have a name. -/
def lastNamed? (fields : List Field) (name : String) : Option Field :=
  fields.findRev? (·.name == name)

theorem lastNamed?_cons (first : Field) (rest : List Field) (name : String) :
    lastNamed? (first :: rest) name =
      (lastNamed? rest name).or (if first.name = name then some first else none) := by
  simp only [lastNamed?, List.findRev?_eq_find?_reverse, List.reverse_cons, List.find?_append,
    List.find?_singleton, beq_iff_eq]

theorem name_of_lastNamed? (last : lastNamed? fields name = some field) : field.name = name := by
  rw [lastNamed?, List.findRev?_eq_find?_reverse] at last
  exact eq_of_beq (List.find?_some last :)

theorem lastNamed?_eq_none_iff : lastNamed? fields name = none ↔ name ∉ names fields := by
  simp [lastNamed?, names]

/-- What is put last under a name is what is found there. -/
theorem find?_foldl_put (fields added : List Field) (name : String) :
    find? (added.foldl put fields) name = (lastNamed? added name).or (find? fields name) := by
  induction added generalizing fields with
  | nil => rfl
  | cons first rest ih =>
      rw [List.foldl_cons, ih, find?_put, lastNamed?_cons, Option.or_assoc]
      by_cases same : first.name = name <;> simp [same]

/-- New names come last, in the order in which each was first put. -/
theorem names_foldl_put (fields added : List Field) :
    names (added.foldl put fields) =
      names fields ++ ((names added).filter fun name => name ∉ names fields).eraseDups := by
  induction added generalizing fields with
  | nil => simp [names]
  | cons first rest ih =>
      have head : names (first :: rest) = first.name :: names rest := rfl
      rw [List.foldl_cons, ih, names_put, head]
      by_cases old : first.name ∈ names fields
      · simp [old]
      · -- The new name is at the end now, and is put there no second time.
        have later : ((names rest).filter fun name => name ∉ names fields ++ [first.name]) =
            ((names rest).filter fun name => name ∉ names fields).filter fun name =>
              !name == first.name := by
          rw [List.filter_filter]
          refine List.filter_congr fun name _ => ?_
          simp [and_comm, beq_eq_decide]
        simp only [old, if_false, later, List.filter_cons, not_false_eq_true, decide_true,
          if_true, List.eraseDups_cons, List.append_assoc, List.singleton_append]

theorem filterMap_find?_names (distinct : (names fields).Nodup) :
    (names fields).filterMap (find? fields) = fields := by
  have found : ∀ field ∈ fields, (find? fields ∘ (·.name)) field = some (id field) :=
    fun field member => find?_name distinct member
  rw [names, List.filterMap_map, List.filterMap_eq_map_iff_forall_eq_some.mpr found, List.map_id]

theorem names_filterMap_lastNamed? {listed : List String}
    (given : ∀ name ∈ listed, name ∈ names fields) :
    names (listed.filterMap (lastNamed? fields)) = listed := by
  induction listed with
  | nil => rfl
  | cons name rest ih =>
      obtain ⟨here, later⟩ := List.forall_mem_cons.mp given
      cases last : lastNamed? fields name with
      | none => exact absurd here (lastNamed?_eq_none_iff.mp last)
      | some field =>
          rw [List.filterMap_cons, last, names, List.map_cons, name_of_lastNamed? last]
          exact congrArg (name :: ·) (ih later)

/-- Over distinct names, fields that are put take the places of those with their names, and
the others follow. -/
theorem foldl_put_eq (distinct : (names fields).Nodup) (added : List Field) :
    added.foldl put fields =
      fields.map (fun field => (lastNamed? added field.name).getD field) ++
        ((names added).filter fun name => name ∉ names fields).eraseDups.filterMap
          (lastNamed? added) := by
  let fresh := ((names added).filter fun name => name ∉ names fields).eraseDups
  let under (name : String) : Option Field := (lastNamed? added name).or (find? fields name)
  have old : (names fields).filterMap under =
      fields.map fun field => (lastNamed? added field.name).getD field := by
    rw [names, List.filterMap_map, List.filterMap_eq_map_iff_forall_eq_some]
    intro field member
    simp only [Function.comp_apply, under, find?_name distinct member]
    cases lastNamed? added field.name <;> rfl
  have new : fresh.filterMap under = fresh.filterMap (lastNamed? added) := by
    refine List.filterMap_congr fun name member => ?_
    have absent : name ∉ names fields := by
      simpa using (List.mem_filter.mp (List.mem_eraseDups.mp member)).2
    simp only [under, find?_eq_none_iff.mpr absent, Option.or_none]
  calc added.foldl put fields
    _ = (names (added.foldl put fields)).filterMap (find? (added.foldl put fields)) :=
        (filterMap_find?_names (nodup_names_foldl_put distinct added)).symm
    _ = (names fields ++ fresh).filterMap under := by
        rw [names_foldl_put, funext (find?_foldl_put fields added)]
    _ = _ := by rw [List.filterMap_append, old, new]

theorem lastNamed?_of_mem_distinct (member : field ∈ distinct fields) :
    lastNamed? fields field.name = some field := by
  have found := find?_name (nodup_names_distinct fields) member
  rw [distinct, find?_foldl_put] at found
  simpa [find?] using found

theorem names_distinct (fields : List Field) :
    names (distinct fields) = (names fields).eraseDups := by
  rw [distinct, names_foldl_put]
  simp [names]

/-- Whether a field is what is written by the last of some entries to write one of its
name. -/
def WrittenLast {Entry : Type} (Writes : Entry → Field → Prop) (entries : List Entry)
    (field : Field) : Prop :=
  ∃ earlier entry later, entries = earlier ++ entry :: later ∧ Writes entry field ∧
    ∀ other ∈ later, ∀ written, Writes other written → written.name ≠ field.name

section Entries

variable {Entry : Type} {writes? : Entry → Option Field} {Writes : Entry → Field → Prop}

theorem writtenLast_of_lastNamed? {entries : List Entry}
    (writes_iff : ∀ entry written, writes? entry = some written ↔ Writes entry written)
    (last : lastNamed? (entries.filterMap writes?) name = some field) :
    WrittenLast Writes entries field := by
  induction entries with
  | nil => contradiction
  | cons entry rest ih =>
      -- Either an entry of the rest writes the name, or this one is the last that does.
      cases later : lastNamed? (rest.filterMap writes?) name with
      | some found =>
          have same : found = field := by
            cases first : writes? entry <;>
              simpa [List.filterMap_cons, first, lastNamed?_cons, later] using last
          obtain ⟨earlier, writer, others, rfl, writes, unwritten⟩ := ih (later.trans (same ▸ rfl))
          exact ⟨entry :: earlier, writer, others, rfl, writes, unwritten⟩
      | none =>
          cases first : writes? entry with
          | none => simp [first, later] at last
          | some written =>
              have named := name_of_lastNamed? last
              obtain ⟨-, rfl⟩ : written.name = name ∧ written = field := by
                simpa [List.filterMap_cons, first, lastNamed?_cons, later] using last
              refine ⟨[], entry, rest, rfl, (writes_iff _ _).mp first, ?_⟩
              intro other member next writes same
              have added : next ∈ rest.filterMap writes? :=
                List.mem_filterMap.mpr ⟨other, member, (writes_iff _ _).mpr writes⟩
              exact lastNamed?_eq_none_iff.mp later
                (List.mem_map.mpr ⟨next, added, same.trans named⟩)

theorem names_filterMap (writes : Entry → Bool) (nameOf : Entry → String) (entries : List Entry)
    (own : ∀ entry, (writes? entry).map (·.name) =
      if writes entry then some (nameOf entry) else none) :
    names (entries.filterMap writes?) = (entries.filter writes).map nameOf := by
  rw [names, List.map_filterMap]
  induction entries with
  | nil => rfl
  | cons entry rest ih =>
      rw [List.filterMap_cons, own, ih, List.filter_cons]
      cases writes entry <;> rfl

end Entries

end Aggregation.Field
