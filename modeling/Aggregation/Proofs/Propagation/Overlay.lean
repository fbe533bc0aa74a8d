import Aggregation.Proofs.Propagation.Offered

namespace Aggregation

/-! Filters over other fields than those that they are checked against.

The form of a filter is offered what the earlier stages leave of the filter fields, but
a filter is checked against what they leave of the initial fields.  Stages never look at
the types of fields, so both come to the same where a filter field differs from the
initial field of its name in types alone.
-/

namespace Field

mutual

/-- A field without the names of types. -/
def outline : Field → Field
  | ⟨name, kind, _, none⟩ => ⟨name, kind, "", none⟩
  | ⟨name, kind, _, some fields⟩ => ⟨name, kind, "", some (outlines fields)⟩

def outlines : List Field → List Field
  | [] => []
  | field :: rest => outline field :: outlines rest

end

theorem outlines_eq_map (fields : List Field) : outlines fields = fields.map outline := by
  induction fields with
  | nil => rfl
  | cons field rest ih => rw [outlines, ih, List.map_cons]

mutual

theorem outline_outline : (field : Field) → field.outline.outline = field.outline
  | ⟨name, kind, typeName, none⟩ => rfl
  | ⟨name, kind, typeName, some fields⟩ => by simp [outline, outlines_outlines fields]

theorem outlines_outlines : (fields : List Field) → outlines (outlines fields) = outlines fields
  | [] => rfl
  | field :: rest => by simp [outlines, outline_outline field, outlines_outlines rest]

end

mutual

theorem validate_outline : (field : Field) → field.outline.validate = field.validate
  | ⟨name, kind, typeName, none⟩ => by
      cases kind <;> rfl
  | ⟨name, kind, typeName, some fields⟩ => by
      have below := validateAll_outlines fields
      cases kind <;> simp only [outline, validate, below]

theorem validateAll_outlines :
    (fields : List Field) → validateAll (outlines fields) = validateAll fields
  | [] => rfl
  | field :: rest => by
      rw [outlines, validateAll, validateAll, validate_outline field, validateAll_outlines rest]

end

variable {field : Field} {fields added : List Field} {name typeName : String}

theorem flaw?_outline (field : Field) : field.outline.flaw? = field.flaw? := by
  rw [flaw?, validate_outline, flaw?]

@[simp] theorem name_outline (field : Field) : field.outline.name = field.name := by
  obtain ⟨name, kind, typeName, subFields⟩ := field
  cases subFields <;> rfl

@[simp] theorem kind_outline (field : Field) : field.outline.kind = field.kind := by
  obtain ⟨name, kind, typeName, subFields⟩ := field
  cases subFields <;> rfl

@[simp] theorem typeName_outline (field : Field) : field.outline.typeName = "" := by
  obtain ⟨name, kind, typeName, subFields⟩ := field
  cases subFields <;> rfl

@[simp] theorem children_outline (field : Field) :
    field.outline.children = field.children.map outline := by
  obtain ⟨name, kind, typeName, subFields⟩ := field
  cases subFields with
  | none => rfl
  | some fields => exact outlines_eq_map fields

@[simp] theorem outline_makeScalar : (makeScalar name typeName).outline = makeScalar name "" := rfl

theorem outline_rename (field : Field) (name : String) :
    { field with name }.outline = { field.outline with name } := by
  obtain ⟨other, kind, typeName, subFields⟩ := field
  cases subFields <;> rfl

theorem map_outline_outline (fields : List Field) :
    (fields.map outline).map outline = fields.map outline := by
  simp [outline_outline]

@[simp] theorem find?_outline (fields : List Field) (name : String) :
    find? (fields.map outline) name = (find? fields name).map outline := by
  have same : ((·.name == name) ∘ outline) = fun field : Field => field.name == name :=
    funext fun field => by rw [Function.comp_apply, name_outline]
  rw [find?, List.find?_map, same, find?]

theorem descend?_outline (fields : List Field) (segments : List String) :
    descend? (fields.map outline) segments = (descend? fields segments).map outline := by
  fun_induction descend? fields segments with
  | case1 => rfl
  | case2 fields segment => exact find?_outline fields segment
  | case3 fields segment rest nonempty ih =>
      rw [descend?, find?_outline]
      · cases find? fields segment with
        | none => rfl
        | some outer => simpa using ih outer
      · exact nonempty

theorem resolve?_outline (fields : List Field) (path : String) :
    resolve? (fields.map outline) path = (resolve? fields path).map outline :=
  descend?_outline fields (Text.split '.' path)

theorem map_outline_put (fields : List Field) (field : Field) :
    (put fields field).map outline = put (fields.map outline) field.outline := by
  induction fields with
  | nil => rfl
  | cons first rest ih =>
      simp only [put, List.map_cons, name_outline]
      split
      · rfl
      · rw [List.map_cons, ih]

theorem map_outline_foldl_put (added fields : List Field) :
    (added.foldl put fields).map outline = (added.map outline).foldl put (fields.map outline) := by
  induction added generalizing fields with
  | nil => rfl
  | cons first rest ih => simp [ih, map_outline_put]

theorem map_outline_distinct (fields : List Field) :
    (distinct fields).map outline = distinct (fields.map outline) :=
  map_outline_foldl_put fields []

theorem outline_output?_groupByRule (rule : GroupByRule) (available : List Field)
    (unchecked : Bool) :
    (rule.output? (available.map outline) unchecked).map outline =
      (rule.output? available unchecked).map outline := by
  unfold GroupByRule.output?
  split
  · rfl
  · cases rule.computation? with
    | some expression => rfl
    | none =>
        rw [resolve?_outline]
        cases resolve? available rule.field with
        | some source =>
            simp only [Option.map_some, outline_rename, outline_outline]
        | none => rfl

theorem outline_output?_computedField (computed : ComputedField) (available : List Field) :
    (computed.output? (available.map outline)).map outline =
      (computed.output? available).map outline := by
  unfold ComputedField.output?
  split <;> rfl

end Field

namespace Stage

theorem map_outline_unwound (available : List Field) (target : Field) :
    (unwound available target).map Field.outline =
      unwound (available.map Field.outline) target.outline := by
  unfold unwound
  rw [Field.children_outline]
  cases target.children with
  | nil => simp
  | cons first rest =>
      change _ = ((first :: rest).map Field.outline).filter _
      rw [List.filter_map]
      simp only [Function.comp_def, Field.name_outline, Field.find?_outline, Option.isNone_map]

theorem map_outline_unwindOutput (available : List Field) (name : String) :
    (unwindOutput available name).map Field.outline =
      unwindOutput (available.map Field.outline) name := by
  unfold unwindOutput
  rw [Field.find?_outline]
  cases Field.find? available name with
  | none => rfl
  | some target =>
      simp only [Option.map_some, Field.kind_outline, Field.flaw?_outline]
      split
      · rw [Field.map_outline_distinct, List.map_flatMap, List.flatMap_map]
        simp only [Field.name_outline, apply_ite (List.map Field.outline), map_outline_unwound,
          List.map_singleton]
      · rfl

/-- What a stage leaves does not depend on types but in its types. -/
theorem map_outline_output (stage : Stage) (available : List Field) (unchecked : Bool) :
    (stage.output (available.map Field.outline) unchecked).map Field.outline =
      (stage.output available unchecked).map Field.outline := by
  cases stage with
  | group form =>
      simp only [output, Field.map_outline_distinct, List.map_append, List.map_filterMap,
        Field.outline_output?_groupByRule, Field.outline_output?_computedField]
  | addFields entries =>
      simp only [output, Field.map_outline_foldl_put, List.map_filterMap,
        Field.map_outline_outline, Field.outline_output?_computedField]
  | unwind name =>
      rw [output, output]
      split
      · exact Field.map_outline_outline available
      · rw [map_outline_unwindOutput, map_outline_unwindOutput, Field.map_outline_outline]
  | filter | sort | custom => exact Field.map_outline_outline available

end Stage

variable {initial filterFields fields others : List Field} {stages : List Stage}

theorem Stage.map_outline_output_congr (stage : Stage) (unchecked : Bool)
    (alike : fields.map Field.outline = others.map Field.outline) :
    (stage.output fields unchecked).map Field.outline =
      (stage.output others unchecked).map Field.outline := by
  rw [← map_outline_output, alike, map_outline_output]

theorem Propagation.map_outline_applyAll (stages : List Stage) {p q : Propagation}
    (alike : p.fields.map Field.outline = q.fields.map Field.outline)
    (both : p.unchecked = q.unchecked) (index : Nat) :
    (p.applyAll index stages).fields.map Field.outline =
      (q.applyAll index stages).fields.map Field.outline := by
  induction stages generalizing p q index with
  | nil => exact alike
  | cons stage rest ih =>
      refine ih ?_ ?_ (index + 1)
      · rw [apply, apply, both]
        exact stage.map_outline_output_congr q.unchecked alike
      · rw [apply, apply, both]

/-- The same stages leave fields of one outline of fields that have the same outline. -/
theorem map_outline_fieldsAfter (alike : fields.map Field.outline = others.map Field.outline)
    (stages : List Stage) :
    (fieldsAfter fields stages).map Field.outline =
      (fieldsAfter others stages).map Field.outline := by
  have both : (Propagation.start fields).unchecked = (Propagation.start others).unchecked := rfl
  refine Propagation.map_outline_applyAll stages ?_ both 0
  rw [Propagation.start, Propagation.start, Field.map_outline_distinct, alike,
    Field.map_outline_distinct]

theorem Field.exists_resolve?_congr (alike : fields.map outline = others.map outline)
    {path : String} :
    (∃ field, resolve? fields path = some field) ↔ ∃ field, resolve? others path = some field := by
  have same : (resolve? fields path).map outline = (resolve? others path).map outline := by
    rw [← resolve?_outline, alike, resolve?_outline]
  rw [← Option.isSome_iff_exists, ← Option.isSome_iff_exists, ← Option.isSome_map, same,
    Option.isSome_map]

/-- Whether filter fields differ from the initial fields of their names in types alone. -/
def Overlays (initial filterFields : List Field) : Prop :=
  ∀ field ∈ initial, ∀ rich, Field.find? filterFields field.name = some rich →
    rich.outline = field.outline

theorem Overlays.map_outline (overlays : Overlays initial filterFields) :
    (overlayFields initial filterFields).map Field.outline = initial.map Field.outline := by
  rw [overlayFields, List.map_map]
  refine List.map_congr_left fun field member => ?_
  cases laid : Field.find? filterFields field.name with
  | none => simp [laid]
  | some rich => simpa [laid] using overlays field member rich laid

theorem overlayFields_nil (initial : List Field) : overlayFields initial [] = initial :=
  List.map_id' initial

theorem Stage.offeredAfter_filter (whole : Filter.Group) (before : List Stage) :
    (Stage.filter whole).offeredAfter initial filterFields before =
      fieldsAfter (overlayFields initial filterFields) before := by
  rw [offeredAfter]
  split
  · next empty => rw [List.isEmpty_iff.mp empty, overlayFields_nil]
  · rfl

/-- A filter that no custom stage precedes has no unknown field reported just if all its
paths lead to a field. -/
theorem filter_unreported_iff (initial : List Field) {index : Nat} {whole : Filter.Group}
    (there : stages[index]? = some (.filter whole))
    (unpreceded : ∀ earlier ∈ stages.take index, earlier.isCustom = false) :
    (∀ path, ⟨index, .schema (.unknownField path)⟩ ∉ (propagate initial stages).diagnostics) ↔
      ∀ path, (Stage.filter whole).Refers .filterRule path → path ≠ "" →
        ∃ field, Field.resolve? (fieldsAfter initial (stages.take index)) path = some field := by
  refine forall_congr' fun path => ?_
  rw [unknownField_reported_iff there]
  constructor
  · intro silent refers nonempty
    refine Option.ne_none_iff_exists'.mp fun nowhere => silent ?_
    exact ⟨unpreceded, nonempty, .filterRule, nofun, refers, nowhere⟩
  · rintro leads ⟨-, nonempty, slot, -, refers, nowhere⟩
    cases refers with
    | filterRule inside mentions =>
        obtain ⟨field, found⟩ := leads (.filterRule inside mentions) nonempty
        change Field.resolve? _ path = none at nowhere
        rw [found] at nowhere
        contradiction

/-- Where all paths in a filter lead to a field that the filter is offered, no field is
reported as unknown just if they lead to a field without the filter fields as well.  They
always do if the filter fields differ from the initial fields in types alone. -/
theorem offered_paths_accepted_iff (initial filterFields : List Field) (pipeline : List Stage)
    {index : Nat} {whole : Filter.Group} {offered : List Field}
    (there : pipeline[index]? = some (.filter whole))
    (unpreceded : ∀ earlier ∈ pipeline.take index, earlier.isCustom = false)
    (given : (fieldsPerStage initial filterFields pipeline).perStage[index]? = some offered)
    (resolve : ∀ path, (Stage.filter whole).Refers .filterRule path → path ≠ "" →
      ∃ field, Field.resolve? offered path = some field) :
    ((∀ path, ⟨index, .schema (.unknownField path)⟩ ∉
        (fieldsPerStage initial filterFields pipeline).output.diagnostics) ↔
      ∀ path, (Stage.filter whole).Refers .filterRule path → path ≠ "" →
        ∃ field, Field.resolve? (fieldsAfter initial (pipeline.take index)) path = some field) ∧
    (Overlays initial filterFields → ∀ path, ⟨index, .schema (.unknownField path)⟩ ∉
      (fieldsPerStage initial filterFields pipeline).output.diagnostics) := by
  rw [output_fieldsPerStage]
  have exact := filter_unreported_iff initial there unpreceded
  refine ⟨exact, fun overlays => exact.mpr fun path refers nonempty => ?_⟩
  have laid : offered =
      fieldsAfter (overlayFields initial filterFields) (pipeline.take index) := by
    rw [perStage_fieldsPerStage, List.getElem?_mapIdx, there, Option.map_some,
      Stage.offeredAfter_filter] at given
    exact (Option.some.inj given).symm
  have alike := map_outline_fieldsAfter overlays.map_outline (pipeline.take index)
  rw [← laid] at alike
  exact (Field.exists_resolve?_congr alike).mp (resolve path refers nonempty)

/-- Unwinds the tags, then filters by the path `path`. -/
def unwindThenFilter (path : String) : List Stage :=
  [.unwind "tags", .filter { filters := [.rule { field := path, operator := "eq" }] }]

theorem unwindThenFilter_refers {path other : String}
    (refers : Stage.Refers (.filter { filters := [.rule { field := path, operator := "eq" }] })
      .filterRule other) : other = path := by
  cases refers with
  | filterRule inside mentions =>
      obtain rfl := List.mem_singleton.mp inside
      cases mentions with
      | rule same => exact same.symm

theorem unwindThenFilter_label_accepted :
    let typed : List Field := [.makeList "tags" "Label" [.makeScalar "label" "LabelText"]]
    let stages := fieldsPerStage [.makeList "tags" "Tag" [.makeScalar "label" "String"]] typed
      (unwindThenFilter "label")
    stages.perStage[1]? = some [.makeScalar "label" "LabelText"] ∧
      ∀ path, ⟨1, .schema (.unknownField path)⟩ ∉ stages.output.diagnostics := by
  intro typed stages
  have offered : stages.perStage[1]? = some [.makeScalar "label" "LabelText"] := by decide
  have leads : ∃ field, Field.resolve? [.makeScalar "label" "LabelText"] "label" = some field :=
    ⟨.makeScalar "label" "LabelText", by decide⟩
  have overlays : Overlays [.makeList "tags" "Tag" [.makeScalar "label" "String"]] typed := by
    intro field member rich laid
    obtain rfl := List.mem_singleton.mp member
    cases laid
    rfl
  obtain ⟨-, accepted⟩ := offered_paths_accepted_iff _ typed (unwindThenFilter "label") rfl
    (by decide) offered fun path refers _ => unwindThenFilter_refers refers ▸ leads
  exact ⟨offered, accepted overlays⟩

/-- The filter is offered the colour of a tag, which it cannot refer to. -/
theorem unwindThenFilter_colour_unaccepted :
    let rich : List Field :=
      [.makeList "tags" "Tag" [.makeScalar "label" "String", .makeScalar "colour" "String"]]
    let stages := fieldsPerStage [.makeList "tags" "Tag" [.makeScalar "label" "String"]] rich
      (unwindThenFilter "colour")
    (∀ earlier ∈ (unwindThenFilter "colour").take 1, earlier.isCustom = false) ∧
      (∃ offered whole, (unwindThenFilter "colour")[1]? = some (.filter whole) ∧
        stages.perStage[1]? = some offered ∧
        ∀ path, (Stage.filter whole).Refers .filterRule path →
          ∃ field, Field.resolve? offered path = some field) ∧
      ⟨1, .schema (.unknownField "colour")⟩ ∈ stages.output.diagnostics := by
  intro rich stages
  refine ⟨by decide, ⟨_, _, rfl, rfl, fun path refers => ?_⟩, by decide⟩
  rw [unwindThenFilter_refers refers]
  exact ⟨.makeScalar "colour" "String", by decide⟩

end Aggregation
