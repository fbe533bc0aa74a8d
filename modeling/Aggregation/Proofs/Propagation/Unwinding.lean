import Mathlib.Data.List.Nodup
import Aggregation.Proofs.Field.WellFormed
import Aggregation.Proofs.Propagation.Reached

namespace Aggregation

/-! Where the children of a list go that is unwound.

They take the place of the list, in their own order, but for those with the name of another
field: these are left out and reported.  Since no two fields had one name, and the children
have distinct names too, nothing that is put there takes the place of anything else.
-/

namespace Field

variable {before after fields replacing : List Field} {target child : Field} {name : String}

theorem nodup_names_around (distinct : (names (before ++ target :: after)).Nodup) :
    target.name ∉ names (before ++ after) ∧ (names (before ++ after)).Nodup := by
  rw [names, List.map_append, List.map_cons, List.nodup_middle] at distinct
  rw [names, List.map_append]
  exact List.nodup_cons.mp distinct

/-- Among distinct names, those of the other fields are the names that are there and are not
the field's own. -/
theorem mem_names_around_iff (distinct : (names (before ++ target :: after)).Nodup) :
    name ∈ names (before ++ after) ↔
      name ≠ target.name ∧ (find? (before ++ target :: after) name).isSome := by
  have apart := (nodup_names_around distinct).1
  have there : (find? (before ++ target :: after) name).isSome ↔
      name = target.name ∨ name ∈ names (before ++ after) := by
    rw [Option.isSome_iff_ne_none, ne_eq, find?_eq_none_iff, Decidable.not_not]
    simp only [names, List.map_append, List.map_cons, List.mem_append, List.mem_cons]
    exact or_left_comm
  rw [there]
  constructor
  · intro member
    exact ⟨fun same => apart (same ▸ member), .inr member⟩
  · rintro ⟨other, same | member⟩
    · exact absurd same other
    · exact member

theorem flatMap_of_not_mem (absent : name ∉ names fields) :
    (fields.flatMap fun field => if field.name = name then replacing else [field]) = fields := by
  induction fields with
  | nil => rfl
  | cons first rest ih =>
      have differ : first.name ≠ name := fun same => absent (same ▸ List.mem_cons_self)
      have later : name ∉ names rest := fun member => absent (List.mem_cons_of_mem _ member)
      rw [List.flatMap_cons, if_neg differ, ih later, List.singleton_append]

/-- Replacing the fields of one name replaces one field, where it stands. -/
theorem flatMap_replacing (distinct : (names (before ++ target :: after)).Nodup) :
    ((before ++ target :: after).flatMap fun field =>
      if field.name = target.name then replacing else [field]) =
        before ++ replacing ++ after := by
  have apart := (nodup_names_around distinct).1
  rw [names, List.map_append, List.mem_append, not_or] at apart
  rw [List.flatMap_append, List.flatMap_cons, if_pos rfl, flatMap_of_not_mem apart.1,
    flatMap_of_not_mem apart.2, List.append_assoc]

theorem nodup_names_replacing (distinct : (names (before ++ target :: after)).Nodup)
    (unrepeated : (names replacing).Nodup)
    (apart : ∀ field ∈ replacing, field.name ∉ names (before ++ after)) :
    (names (before ++ replacing ++ after)).Nodup := by
  have moved : (before ++ replacing ++ after).Perm (replacing ++ (before ++ after)) := by
    rw [← List.append_assoc]
    exact List.perm_append_comm.append_right after
  rw [names, (moved.map (·.name)).nodup_iff, List.map_append]
  refine List.nodup_append'.mpr ⟨unrepeated, (nodup_names_around distinct).2, ?_⟩
  intro name inside outside
  obtain ⟨field, member, rfl⟩ := List.mem_map.mp inside
  exact apart field member outside

end Field

namespace Stage

variable {before after available : List Field} {target : Field} {name : String}

theorem unwound_of_children (distinct : (Field.names (before ++ target :: after)).Nodup)
    (children : target.children ≠ []) :
    unwound (before ++ target :: after) target =
      target.children.filter fun child => child.name ∉ Field.names (before ++ after) := by
  unfold unwound
  split
  · contradiction
  · refine List.filter_congr fun child _ => ?_
    rw [Bool.eq_iff_iff, decide_eq_true_iff, Field.mem_names_around_iff distinct]
    simp [Decidable.or_iff_not_imp_left]

theorem droppedChildren_eq (distinct : (Field.names (before ++ target :: after)).Nodup) :
    droppedChildren (before ++ target :: after) target =
      target.children.filter fun child => child.name ∈ Field.names (before ++ after) := by
  refine List.filter_congr fun child _ => ?_
  rw [Bool.eq_iff_iff, decide_eq_true_iff, Field.mem_names_around_iff distinct]
  simp

theorem nodup_names_unwound (distinct : (Field.names (before ++ target :: after)).Nodup)
    (unrepeated : (Field.names target.children).Nodup) :
    (Field.names (before ++ unwound (before ++ target :: after) target ++ after)).Nodup := by
  cases bare : target.children with
  | nil => simpa [unwound, bare, Field.names, Field.makeScalar] using distinct
  | cons first rest =>
      rw [unwound_of_children distinct (by simp [bare])]
      refine Field.nodup_names_replacing distinct ?_ fun child member => ?_
      · exact (List.filter_sublist.map _).nodup unrepeated
      · simpa using (List.mem_filter.mp member).2

theorem output_unwind (distinct : (Field.names (before ++ target :: after)).Nodup)
    (named : target.name ≠ "") (list : target.kind = .list) (flawless : target.flaw? = none)
    (unrepeated : (Field.names target.children).Nodup) (unchecked : Bool) :
    (unwind target.name).output (before ++ target :: after) unchecked =
      before ++ unwound (before ++ target :: after) target ++ after := by
  have found : Field.find? (before ++ target :: after) target.name = some target :=
    Field.find?_name distinct (List.mem_append_right _ List.mem_cons_self)
  have nonempty : target.name.isEmpty = false := by simpa using named
  rw [output, nonempty, if_neg Bool.false_ne_true, unwindOutput, found]
  simp only [list, flawless, Option.isNone_none, decide_true, Bool.and_self, if_true]
  rw [Field.flatMap_replacing distinct,
    Field.distinct_of_nodup (nodup_names_unwound distinct unrepeated)]

theorem output_unwind_of_unfit (unfit : ∀ field ∈ available, field.name = name →
      field.kind = .list → ¬ field.WellFormed) (unchecked : Bool) :
    (unwind name).output available unchecked = available := by
  rw [output]
  split
  · rfl
  · unfold unwindOutput
    split
    · next target found =>
      have closed : ¬ (decide (target.kind = .list) && target.flaw?.isNone) = true := by
        intro opens
        obtain ⟨list, flawless⟩ : target.kind = .list ∧ target.flaw? = none := by simpa using opens
        exact unfit target (Field.mem_of_find? found) (Field.name_of_find? found) list
          (Field.flaw?_eq_none_iff.mp flawless)
      rw [if_neg closed]
    · rfl

end Stage

/-- The one thing noticed when a well-formed list is unwound is which children are left out. -/
theorem Propagation.issues_unwind {p : Propagation} {target : Field}
    (found : Field.find? p.fields target.name = some target) (named : target.name ≠ "")
    (list : target.kind = .list) (flawless : target.flaw? = none) :
    p.issues (.unwind target.name) = (Stage.droppedChildren p.fields target).map fun child =>
      .warning (.unwindNameCollision target.name child.name) := by
  have resolved : (Stage.unwind target.name).unresolved p.fields = [] := by
    simp [Stage.unresolved, Stage.pathReferences, Stage.nameReferences, Stage.isDanglingName, found]
  have nonempty : target.name.isEmpty = false := by simpa using named
  rw [issues, resolved]
  simp [Stage.notes, nonempty, Stage.unwindNotes, found, list, flawless]

/-- Unwinding a well-formed list puts its children where it stood, in their own order, but for
those with the name of another field, for each of which it reports a collision.  A list without
children becomes a scalar.  No other field is touched, and nothing happens where the name is not
that of a well-formed list. -/
theorem unwind_in_place (fields : List Field) (steps : List (Nat × Stage)) (index : Nat)
    (name : String) :
    let p := Propagation.reached fields steps
    let q := p.apply index (.unwind name)
    (∀ before list after, p.fields = before ++ list :: after → list.name = name →
        list.kind = .list → list.validate = .ok () →
      (list.children = [] → q.fields = before ++ .makeScalar name list.typeName :: after) ∧
      (list.children ≠ [] → (Field.names list.children).Nodup →
        let others := Field.names (before ++ after)
        let collision (child : Field) : Diagnostic :=
          ⟨index, .warning (.unwindNameCollision name child.name)⟩
        let inserted := list.children.filter (·.name ∉ others)
        let reported := (list.children.filter (·.name ∈ others)).map collision
        q.fields = before ++ inserted ++ after ∧ q.diagnostics = p.diagnostics ++ reported ∧
          ∀ child ∈ list.children, child ∈ inserted ↔ collision child ∉ reported)) ∧
    ((name = "" ∨ ∀ field ∈ p.fields, field.name = name →
        field.kind ≠ .list ∨ field.validate ≠ .ok ()) → q.fields = p.fields) := by
  intro p q
  have distinct : (Field.names p.fields).Nodup := Propagation.nodup_names_reached fields steps
  refine ⟨?_, ?_⟩
  · rintro before target after around rfl list valid
    have wellFormed := (Field.validate_eq_ok_iff target).mp valid
    have flawless := Field.flaw?_eq_none_iff.mpr wellFormed
    have named : target.name ≠ "" := wellFormed.name_ne_empty
    rw [around] at distinct
    have opened (unrepeated : (Field.names target.children).Nodup) :
        q.fields = before ++ Stage.unwound p.fields target ++ after := by
      have output := Stage.output_unwind distinct named list flawless unrepeated p.unchecked
      rwa [← around] at output
    constructor
    · intro bare
      rw [opened (by simp [bare, Field.names])]
      simp [Stage.unwound, bare]
    · intro children unrepeated others collision inserted reported
      have found : Field.find? p.fields target.name = some target := by
        rw [around]
        exact Field.find?_name distinct (List.mem_append_right _ List.mem_cons_self)
      refine ⟨?_, ?_, fun child member => ?_⟩
      · rw [opened unrepeated, around, Stage.unwound_of_children distinct children]
      · have noticed : q.diagnostics =
            p.diagnostics ++ (p.issues (.unwind target.name)).map (⟨index, ·⟩) := rfl
        rw [noticed, Propagation.issues_unwind found named list flawless, around,
          Stage.droppedChildren_eq distinct, List.map_map]
        rfl
      · have listed : child ∈ inserted ↔ child.name ∉ others := by
          simp [inserted, member]
        rw [listed, not_iff_not]
        constructor
        · intro clash
          exact List.mem_map_of_mem (List.mem_filter.mpr ⟨member, decide_eq_true clash⟩)
        · intro noted
          obtain ⟨other, dropped, same⟩ := List.mem_map.mp noted
          have named : other.name = child.name := by simpa [collision] using same
          exact named ▸ of_decide_eq_true (List.mem_filter.mp dropped).2
  · intro unfit
    refine Stage.output_unwind_of_unfit (fun field member same list wellFormed => ?_) p.unchecked
    rcases unfit with rfl | unfit
    · exact wellFormed.name_ne_empty same
    · rcases unfit field member same with other | invalid
      · exact other list
      · exact invalid ((Field.validate_eq_ok_iff field).mpr wellFormed)

/-- Tags of which each has a region and a weight of its own, and tags below it. -/
def nestedTags : Field :=
  .makeList "tags" "Tag" [.makeScalar "label" "String", .makeScalar "region" "Region",
    .makeScalar "tags" "String", .makeScalar "weight" "Int"]

/-- Between a region and a weight, tags leave their label and the tags below them. -/
theorem nestedTags_unwound :
    let region : Field := .makeScalar "region" "String"
    let weight : Field := .makeScalar "weight" "Float"
    let p := Propagation.reached [region, nestedTags]
      [(0, .addFields [{ name := "weight", expression := ⟨"sum", "tags.weight"⟩ }])]
    let q := p.apply 1 (.unwind "tags")
    (p.fields = [region] ++ nestedTags :: [weight] ∧ nestedTags.validate = .ok () ∧
        nestedTags.children ≠ [] ∧ (Field.names nestedTags.children).Nodup) ∧
      q.fields = [region, .makeScalar "label" "String", .makeScalar "tags" "String", weight] ∧
      q.diagnostics = [⟨1, .warning (.unwindNameCollision "tags" "region")⟩,
        ⟨1, .warning (.unwindNameCollision "tags" "weight")⟩] ∧
      (p.apply 1 (.unwind "region")).fields = p.fields := by
  intro region weight p q
  have around : p.fields = [region] ++ nestedTags :: [weight] := by decide
  have distinct : (Field.names nestedTags.children).Nodup := by decide
  obtain ⟨opens, -⟩ := unwind_in_place [region, nestedTags]
    [(0, .addFields [{ name := "weight", expression := ⟨"sum", "tags.weight"⟩ }])] 1 "tags"
  obtain ⟨-, unwound⟩ := opens [region] nestedTags [weight] around rfl rfl rfl
  obtain ⟨left, noted, -⟩ := unwound (by decide) distinct
  obtain ⟨-, stays⟩ := unwind_in_place [region, nestedTags]
    [(0, .addFields [{ name := "weight", expression := ⟨"sum", "tags.weight"⟩ }])] 1 "region"
  refine ⟨⟨around, rfl, by decide, distinct⟩, ?_, ?_, stays (.inr ?_)⟩
  · rw [left]
    decide
  · rw [noted]
    decide
  · rw [around]
    decide

end Aggregation
