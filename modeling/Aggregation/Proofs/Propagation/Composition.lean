import Aggregation.Proofs.Propagation.Offered

namespace Aggregation

/-! A pipeline in two parts.

Only fields pass from one stage to the next, apart from the mark that a custom stage
leaves.  So the second part of a pipeline can be worked out anew from the fields that
the first part leaves: their names are distinct, and none of them is lost or moved when
it starts again from them.
-/

namespace Field

variable {fields added : List Field} {field : Field}

theorem put_of_not_mem (fresh : field.name ∉ names fields) :
    put fields field = fields ++ [field] := by
  induction fields with
  | nil => rfl
  | cons first rest ih =>
      have differ : first.name ≠ field.name := fun same => fresh (same ▸ List.mem_cons_self)
      have later : field.name ∉ names rest := fun member => fresh (List.mem_cons_of_mem _ member)
      rw [put, if_neg differ, ih later, List.cons_append]

theorem foldl_put_of_nodup (distinct : (names (fields ++ added)).Nodup) :
    added.foldl put fields = fields ++ added := by
  induction added generalizing fields with
  | nil => exact (List.append_nil fields).symm
  | cons first rest ih =>
      have fresh : first.name ∉ names fields := by
        rw [names, List.map_append] at distinct
        intro member
        exact (List.nodup_append.mp distinct).2.2 _ member _ List.mem_cons_self rfl
      have regrouped : fields ++ first :: rest = fields ++ [first] ++ rest := by
        rw [List.append_assoc, List.singleton_append]
      rw [List.foldl_cons, put_of_not_mem fresh, regrouped]
      rw [regrouped] at distinct
      exact ih distinct

theorem distinct_of_nodup (unrepeated : (names fields).Nodup) : distinct fields = fields := by
  have alone : (names ([] ++ fields)).Nodup := unrepeated
  exact foldl_put_of_nodup alone

end Field

namespace Propagation

variable (p : Propagation) (earlier : List Diagnostic) (offset index : Nat)

/-- The same, seen from `offset` stages further on, where some was noticed before. -/
def continuing : Propagation :=
  { p with diagnostics := earlier ++ p.diagnostics.map fun d => ⟨offset + d.stage, d.issue⟩ }

theorem apply_continuing (stage : Stage) :
    (p.continuing earlier offset).apply (offset + index) stage =
      (p.apply index stage).continuing earlier offset := by
  have issues : (p.continuing earlier offset).issues stage = p.issues stage := rfl
  rw [apply, issues]
  simp only [continuing, apply, List.map_append, List.map_map, List.append_assoc,
    Function.comp_def]

theorem applyAll_continuing (stages : List Stage) :
    (p.continuing earlier offset).applyAll (offset + index) stages =
      (p.applyAll index stages).continuing earlier offset := by
  induction stages generalizing p index with
  | nil => rfl
  | cons stage rest ih => rw [applyAll, apply_continuing, Nat.add_assoc, ih, applyAll]

end Propagation

/-- Unless the first part of a pipeline has a custom stage, the second can be worked out
from the fields that the first leaves, with its diagnostics moved on by the length of
the first. -/
theorem propagate_append (fields : List Field) (first second : List Stage)
    (checked : ∀ stage ∈ first, stage.isCustom = false) :
    let before := propagate fields first
    let after := propagate before.fields second
    (Field.names before.fields).Nodup ∧
      (propagate fields (first ++ second)).fields = after.fields ∧
      (propagate fields (first ++ second)).unchecked = after.unchecked ∧
      (propagate fields (first ++ second)).diagnostics =
        before.diagnostics ++
          after.diagnostics.map fun d => ⟨first.length + d.stage, d.issue⟩ := by
  intro before after
  have distinct : (Field.names before.fields).Nodup := nodup_names_fieldsAfter fields first
  have unmarked : before.unchecked = false := unchecked_propagate_eq_false checked
  -- What holds between the parts is a fresh start from its fields, moved on.
  have restart : before =
      (Propagation.start before.fields).continuing before.diagnostics first.length := by
    rw [Propagation.start, Field.distinct_of_nodup distinct, Propagation.continuing, ← unmarked]
    simp only [List.map_nil, List.append_nil]
  have whole : propagate fields (first ++ second) =
      after.continuing before.diagnostics first.length := by
    calc propagate fields (first ++ second)
      _ = before.applyAll first.length second := by
          rw [propagate, Propagation.applyAll_append, Nat.zero_add]
          rfl
      _ = ((Propagation.start before.fields).continuing before.diagnostics first.length).applyAll
            first.length second := by rw [← restart]
      _ = after.continuing before.diagnostics first.length :=
          Propagation.applyAll_continuing _ before.diagnostics first.length 0 second
  rw [whole]
  exact ⟨distinct, rfl, rfl, rfl⟩

/-- A region that is given twice, and tags. -/
def repeatedFields : List Field :=
  [.makeScalar "region" "String", .makeList "tags" "Tag" [.makeScalar "label" "String"],
    .makeScalar "region" "Region"]

theorem repeatedFields_propagate_append :
    let first : List Stage := [.unwind "tags", .sort "mass" .asc]
    let second : List Stage :=
      [.group { groupBy := [{ field := "label" }, { field := "tags" }] }, .custom "",
        .sort "x" .asc]
    (∀ stage ∈ first, stage.isCustom = false) ∧
      (Field.names (propagate repeatedFields first).fields).Nodup ∧
      (propagate repeatedFields (first ++ second)).unchecked = true ∧
      (propagate repeatedFields (first ++ second)).fields = [.makeScalar "label" "String"] ∧
      (propagate repeatedFields (first ++ second)).diagnostics =
        [⟨1, .schema (.unknownField "mass")⟩, ⟨2, .schema (.unknownField "tags")⟩,
          ⟨3, .warning .uncheckedCustomStage⟩] := by
  intro first second
  have checked : ∀ stage ∈ first, stage.isCustom = false := by decide
  obtain ⟨distinct, fields, unchecked, diagnostics⟩ :=
    propagate_append repeatedFields first second checked
  refine ⟨checked, distinct, ?_, ?_, ?_⟩
  · rw [unchecked]
    decide
  · rw [fields]
    decide
  · rw [diagnostics]
    decide

end Aggregation
