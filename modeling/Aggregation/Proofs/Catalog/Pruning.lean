import Aggregation.Proofs.Catalog.Course

namespace Aggregation

/-! What the guards of an expansion take away.

With more types visited, or less depth, an expansion takes the same course but for the
composite fields that it leaves out.  It looks at fewer types then, so that it cannot fail
where the longer one succeeds.
-/

/-- Whether origins are left of others when some composite fields are cut out, with all that
is below them, at any level. -/
inductive Origin.Prunes : List Origin → List Origin → Prop where
  | nil : Prunes [] []
  | cut {origin : Origin} {rest kept : List Origin} :
      origin.source.typeRef.isComposite = true → Prunes rest kept → Prunes (origin :: rest) kept
  | leaf {origin : Origin} {rest kept : List Origin} :
      origin.source.typeRef.isComposite = false → Prunes rest kept →
      Prunes (origin :: rest) (origin :: kept)
  | nested {source : MetaField} {field : Field} {inner left rest kept : List Origin} :
      source.typeRef.isComposite = true → Prunes inner left → Prunes rest kept →
      Prunes (⟨source, field, inner⟩ :: rest)
        (⟨source, { field with subFields := some (fields left) }, left⟩ :: kept)

theorem MetaField.composite_eq (field : MetaField) (name : String) (fields others : List Field) :
    field.composite name others = { field.composite name fields with subFields := some others } := by
  unfold composite
  split <;> rfl

namespace Catalog

variable {catalog : Catalog} {fields : List MetaField} {visited wider : List String}
  {depth fewer : Nat} {answer : Except SchemaError (List Origin)} {whole : List Origin}
  {typeName : String}

/-- A course that succeeds does so with more types visited and less depth. -/
theorem Expands.prunes (expands : catalog.Expands fields visited depth answer)
    (shallow : fewer ≤ catalog.maxDepth) :
    ∀ whole, answer = .ok whole → ∀ wider, visited ⊆ wider →
      ∃ kept, (catalog.withMaxDepth fewer).Expands fields wider depth (.ok kept) ∧
        Origin.Prunes whole kept := by
  induction expands with
  | nil =>
      intro whole given wider _
      cases given
      exact ⟨[], .nil, .nil⟩
  | unnamed | unknown | failed =>
      intro whole given
      contradiction
  | @leaf _ _ _ _ _ answer named leaf _ later =>
      intro whole given wider subset
      cases answer with
      | error error => contradiction
      | ok rest =>
          cases given
          obtain ⟨kept, course, prunes⟩ := later rest rfl wider subset
          exact ⟨_, .leaf named leaf course, .leaf leaf prunes⟩
  | leftOut named composite barred _ later =>
      intro whole given wider subset
      obtain ⟨kept, course, prunes⟩ := later whole given wider subset
      have barred := barred.imp (fun member => subset member) (Nat.le_trans shallow)
      exact ⟨kept, .leftOut named composite barred course, prunes⟩
  | @nested field _ types _ depth name below answer named composite _ _ known _ _ inner later =>
      intro whole given wider subset
      cases answer with
      | error error => contradiction
      | ok rest =>
          cases given
          obtain ⟨kept, course, prunes⟩ := later rest rfl wider subset
          by_cases barred : name ∈ wider ∨ fewer ≤ depth
          · exact ⟨kept, .leftOut named composite barred course, .cut composite prunes⟩
          · obtain ⟨fresh, deeper⟩ := not_or.mp barred
            have known : (catalog.withMaxDepth fewer).typeFields name = .ok types := known
            have deeper : depth < (catalog.withMaxDepth fewer).maxDepth := Nat.lt_of_not_le deeper
            obtain ⟨left, nested, cuts⟩ :=
              inner below rfl (name :: wider) (List.cons_subset_cons name subset)
            refine ⟨_, .nested named composite fresh deeper known nested course, ?_⟩
            rw [field.composite_eq name (Origin.fields below) (Origin.fields left)]
            exact .nested composite cuts prunes

theorem ExpandsType.prunes
    (expands : catalog.ExpandsType typeName visited depth (.ok whole))
    (shallow : fewer ≤ catalog.maxDepth) (subset : visited ⊆ wider) :
    ∃ kept, (catalog.withMaxDepth fewer).ExpandsType typeName wider depth (.ok kept) ∧
      Origin.Prunes whole kept := by
  cases expands with
  | known known expands =>
      obtain ⟨kept, course, prunes⟩ := expands.prunes shallow whole rfl wider subset
      exact ⟨kept, .known known course, prunes⟩

/-- Where a type is expanded, it also is with more types visited and less depth, and all that
is missing from the result then are composite fields with what is below them. -/
theorem guards_only_prune (catalog : Catalog) (ref : TypeRef) (visited wider : List String)
    (fewer depth : Nat) (fields : List Field) (subset : visited ⊆ wider) (shallow : fewer ≤ depth)
    (expanded : (catalog.withMaxDepth depth).deconfineFields ref visited = .ok fields) :
    ∃ typeName whole kept, ref.namedType? = some typeName ∧
      (catalog.withMaxDepth depth).ExpandsType typeName visited 0 (.ok whole) ∧
      (catalog.withMaxDepth fewer).ExpandsType typeName wider 0 (.ok kept) ∧
      fields = Origin.fields whole ∧
      (catalog.withMaxDepth fewer).deconfineFields ref wider = .ok (Origin.fields kept) ∧
      Origin.Prunes whole kept := by
  obtain ⟨typeName, named, expanded⟩ := exists_of_bind_eq_ok expanded
  obtain ⟨answer, expands, computed⟩ :=
    (catalog.withMaxDepth depth).exists_expandsType typeName visited 0
  obtain ⟨whole, rfl, same⟩ := exists_of_map_eq_ok (computed.symm.trans expanded)
  obtain ⟨kept, course, prunes⟩ := expands.prunes shallow subset
  refine ⟨typeName, whole, kept, namedTypeFor_eq_ok_iff.mp named, expands, course, same, ?_, prunes⟩
  rw [deconfineFields, named]
  exact course.expandType_eq

/-- With badges visited and a level less, teams lose their users' badges, and a parent's lead
all but the name. -/
theorem teams_without_badges :
    let lead : Field := .makeObject "lead" "User"
      [.makeScalar "name" "String", .makeObject "team" "Team" [.makeScalar "name" "String"]]
    let parent : Field := .makeObject "parent" "Team"
      [.makeScalar "name" "String", .makeObject "lead" "User" [.makeScalar "name" "String"]]
    (∃ fields, (teams.withMaxDepth 3).deconfineFields (recordRef "Team") [] = .ok fields) ∧
      (teams.withMaxDepth 2).deconfineFields (recordRef "Team") ["Badge"] =
        .ok [.makeScalar "name" "String", lead, parent] ∧
      ∃ whole kept, (teams.withMaxDepth 3).ExpandsType "Team" [] 0 (.ok whole) ∧
        Origin.fields kept = [.makeScalar "name" "String", lead, parent] ∧
        Origin.Prunes whole kept := by
  intro lead parent
  have pruned : (teams.withMaxDepth 2).deconfineFields (recordRef "Team") ["Badge"] =
      .ok [.makeScalar "name" "String", lead, parent] := rfl
  obtain ⟨typeName, whole, kept, named, expands, -, -, left, prunes⟩ :=
    guards_only_prune teams (recordRef "Team") [] ["Badge"] 2 3 _ (List.nil_subset _) (by decide)
      rfl
  cases named
  exact ⟨⟨_, rfl⟩, pruned, whole, kept, expands, Except.ok.inj (left.symm.trans pruned), prunes⟩

end Catalog

end Aggregation
