import Aggregation.Propagation

namespace Aggregation

/-! What is known before each stage of a pipeline.

A pipeline is walked once, from what holds before a stage to what holds after it.
What holds before a stage is therefore what its earlier stages alone lead to, and
all that the walk says about a stage can be said of these: the issues recorded for
it and the fields it is offered, those of the overlay included.
-/

namespace Propagation

/-- What every stage keeps holds after all of them. -/
theorem applyAll_keeps (Holds : Propagation → Prop) {stages : List Stage}
    (keeps : ∀ stage ∈ stages, ∀ p index, Holds p → Holds (p.apply index stage))
    {p : Propagation} (start : Holds p) (index : Nat) : Holds (p.applyAll index stages) := by
  induction stages generalizing p index with
  | nil => exact start
  | cons stage rest ih =>
      exact ih (fun later member => keeps later (List.mem_cons_of_mem stage member))
        (keeps stage List.mem_cons_self p index start) (index + 1)

theorem applyAll_append (p : Propagation) (index : Nat) (first second : List Stage) :
    p.applyAll index (first ++ second) =
      (p.applyAll index first).applyAll (index + first.length) second := by
  induction first generalizing p index with
  | nil => rfl
  | cons stage rest ih =>
      rw [List.cons_append, applyAll, ih, applyAll, List.length_cons]
      congr 1
      omega

theorem unchecked_applyAll (p : Propagation) (index : Nat) (stages : List Stage) :
    (p.applyAll index stages).unchecked = (p.unchecked || stages.any (·.isCustom)) := by
  induction stages generalizing p index with
  | nil => simp [applyAll]
  | cons stage rest ih => rw [applyAll, ih, List.any_cons, apply, Bool.or_assoc]

/-- The issues of all stages, each stage's seen from what its earlier stages lead to. -/
theorem diagnostics_applyAll (p : Propagation) (index : Nat) (stages : List Stage) :
    (p.applyAll index stages).diagnostics = p.diagnostics ++ (stages.mapIdx fun i stage =>
      ((p.applyAll index (stages.take i)).issues stage).map (⟨index + i, ·⟩)).flatten := by
  induction stages generalizing p index with
  | nil => simp [applyAll]
  | cons stage rest ih =>
      have shifted (i : Nat) : index + 1 + i = index + (i + 1) := by omega
      rw [applyAll, ih, List.mapIdx_cons, List.flatten_cons]
      simp only [apply, List.append_assoc, shifted, List.take_zero, List.take_succ_cons, applyAll,
        Nat.add_zero]

end Propagation

/-- The fields after a stage are what it leaves of those before it. -/
theorem fieldsAfter_take_succ {stages : List Stage} {index : Nat} {stage : Stage}
    (fields : List Field) (there : stages[index]? = some stage) :
    fieldsAfter fields (stages.take (index + 1)) =
      stage.output (fieldsAfter fields (stages.take index))
        (propagate fields (stages.take index)).unchecked := by
  rw [fieldsAfter, propagate, List.take_add_one, there, Propagation.applyAll_append]
  rfl

/-- What every stage at its place keeps holds before all of them. -/
theorem fieldsAfter_take_keeps (Holds : List Field → Prop) {fields : List Field}
    {stages : List Stage} (start : Holds (Field.distinct fields))
    (keeps : ∀ index stage, stages[index]? = some stage →
      Holds (fieldsAfter fields (stages.take index)) →
        Holds (stage.output (fieldsAfter fields (stages.take index))
          (propagate fields (stages.take index)).unchecked))
    (index : Nat) : Holds (fieldsAfter fields (stages.take index)) := by
  induction index with
  | zero => exact start
  | succ index ih =>
      cases there : stages[index]? with
      | some stage =>
          rw [fieldsAfter_take_succ fields there]
          exact keeps index stage there ih
      | none => rwa [List.take_add_one, there, Option.toList_none, List.append_nil]

/-- What is recorded for a stage are its issues after the stages before it. -/
theorem mem_diagnostics_iff {fields : List Field} {stages : List Stage} {index : Nat}
    {issue : StageIssue} :
    ⟨index, issue⟩ ∈ (propagate fields stages).diagnostics ↔
      ∃ stage, stages[index]? = some stage ∧
        issue ∈ (propagate fields (stages.take index)).issues stage := by
  have recorded := Propagation.diagnostics_applyAll (.start fields) 0 stages
  rw [propagate, recorded]
  simp only [Propagation.start, List.nil_append, Nat.zero_add, List.mem_flatten,
    List.mem_mapIdx]
  constructor
  · rintro ⟨_, ⟨i, inside, rfl⟩, member⟩
    obtain ⟨_, member, same⟩ := List.mem_map.mp member
    cases same
    exact ⟨stages[index], List.getElem?_eq_getElem inside, member⟩
  · rintro ⟨stage, there, member⟩
    obtain ⟨inside, rfl⟩ := List.getElem?_eq_some_iff.mp there
    exact ⟨_, ⟨index, inside, rfl⟩, List.mem_map_of_mem member⟩

theorem unchecked_propagate (fields : List Field) (stages : List Stage) :
    (propagate fields stages).unchecked = stages.any (·.isCustom) := by
  rw [propagate, Propagation.unchecked_applyAll, Propagation.start, Bool.false_or]

theorem unchecked_propagate_eq_false {fields : List Field} {stages : List Stage}
    (checked : ∀ stage ∈ stages, stage.isCustom = false) :
    (propagate fields stages).unchecked = false := by
  rw [unchecked_propagate, List.any_eq_false]
  exact fun stage member => by simp [checked stage member]

/-- The one pass computes at every position what its earlier stages alone lead to. -/
theorem StageFields.walk_eq (base : Propagation) (overlay : Option Propagation) (index : Nat)
    (stages : List Stage) :
    walk base overlay index stages =
      ⟨stages.mapIdx fun i stage => stage.offered (base.applyAll index (stages.take i))
          (overlay.map (·.applyAll index (stages.take i))),
        base.applyAll index stages⟩ := by
  induction stages generalizing base overlay index with
  | nil => rfl
  | cons stage rest ih =>
      -- The overlay, where there is one, takes the same step, so the hypothesis is about it.
      rw [walk, ih, List.mapIdx_cons]
      simp only [List.take_zero, List.take_succ_cons, Propagation.applyAll, Option.map_id',
        Option.map_map, Function.comp_def]

/-- The fields offered to a stage after those `before` it, worked out from the start
for this stage alone. -/
def Stage.offeredAfter (stage : Stage) (initial filterFields : List Field)
    (before : List Stage) : List Field :=
  match stage with
  | .filter _ =>
    if filterFields.isEmpty then fieldsAfter initial before
    else fieldsAfter (overlayFields initial filterFields) before
  | .sort .. => (fieldsAfter initial before).filter (·.isScalar)
  | _ => fieldsAfter initial before

/-- Filter fields matter to filters only. -/
theorem Stage.offeredAfter_congr {stage : Stage} (unfiltered : ∀ whole, stage ≠ .filter whole)
    (initial filterFields others : List Field) (before : List Stage) :
    stage.offeredAfter initial filterFields before = stage.offeredAfter initial others before := by
  cases stage with
  | filter whole => exact (unfiltered whole rfl).elim
  | _ => rfl

theorem perStage_fieldsPerStage (initial filterFields : List Field) (pipeline : List Stage) :
    (fieldsPerStage initial filterFields pipeline).perStage =
      pipeline.mapIdx fun i stage =>
        stage.offeredAfter initial filterFields (pipeline.take i) := by
  rw [fieldsPerStage, StageFields.walk_eq]
  refine congrArg (pipeline.mapIdx ·) (funext fun i => funext fun stage => ?_)
  cases stage with
  | filter whole =>
      cases none : filterFields.isEmpty <;>
        simp [Stage.offered, Stage.offeredAfter, none, fieldsAfter, propagate]
  | _ => rfl

theorem output_fieldsPerStage (initial filterFields : List Field) (pipeline : List Stage) :
    (fieldsPerStage initial filterFields pipeline).output = propagate initial pipeline := by
  rw [fieldsPerStage, StageFields.walk_eq, propagate]

/-- One pass offers every stage what working out its own earlier stages would, and
ends with what is known after the whole pipeline.  With other filter fields nothing
changes but what filters are offered. -/
theorem fieldsPerStage_eq_prefixes (initial filterFields : List Field) (pipeline : List Stage) :
    (fieldsPerStage initial filterFields pipeline).perStage =
        pipeline.mapIdx (fun i stage =>
          stage.offeredAfter initial filterFields (pipeline.take i)) ∧
      (fieldsPerStage initial filterFields pipeline).output = propagate initial pipeline ∧
      ∀ others,
        (fieldsPerStage initial others pipeline).output =
          (fieldsPerStage initial filterFields pipeline).output ∧
        ∀ i : Nat, (∀ whole, pipeline[i]? ≠ some (Stage.filter whole)) →
          (fieldsPerStage initial others pipeline).perStage[i]? =
            (fieldsPerStage initial filterFields pipeline).perStage[i]? := by
  refine ⟨perStage_fieldsPerStage _ _ _, output_fieldsPerStage _ _ _, fun others => ⟨?_, ?_⟩⟩
  · rw [output_fieldsPerStage, output_fieldsPerStage]
  · intro i unfiltered
    rw [perStage_fieldsPerStage, perStage_fieldsPerStage, List.getElem?_mapIdx,
      List.getElem?_mapIdx]
    refine Option.map_congr fun stage there => ?_
    refine Stage.offeredAfter_congr (fun whole same => unfiltered whole ?_) _ _ _ _
    rw [there, same]

/-- Filters around a computed field, over a severity that the filter fields type in
another way. -/
def bucketFilters : List Stage :=
  [.filter { filters := [] },
    .addFields [{ name := "bucket", expression := ⟨"toString", "severity"⟩ }],
    .filter { filters := [] }]

theorem bucketFilters_perStage :
    let initial : List Field := [.makeScalar "severity" "String"]
    let rich : List Field := [.makeScalar "severity" "Severity"]
    (fieldsPerStage initial rich bucketFilters).perStage =
        [rich, initial, rich ++ [.makeScalar "bucket" "String"]] ∧
      (∀ whole, bucketFilters[1]? ≠ some (Stage.filter whole)) ∧
      (fieldsPerStage initial [] bucketFilters).perStage[1]? =
        (fieldsPerStage initial rich bucketFilters).perStage[1]? := by
  intro initial rich
  obtain ⟨offered, -, unmoved⟩ := fieldsPerStage_eq_prefixes initial rich bucketFilters
  have unfiltered : ∀ whole, bucketFilters[1]? ≠ some (Stage.filter whole) := nofun
  refine ⟨?_, unfiltered, (unmoved []).2 1 unfiltered⟩
  rw [offered]
  decide

end Aggregation
