import Aggregation.Proofs.Field.Lookup

namespace Aggregation.Field

/-! What it is that the check of a field accepts. -/

/-- Whether the names are not blank and just objects and lists carry sub-fields, here and
below. -/
inductive WellFormed : Field → Prop where
  | scalar {name typeName : String} (named : Text.isBlankText name = false) :
      WellFormed ⟨name, .scalar, typeName, none⟩
  | nested {name typeName : String} {kind : Kind} {children : List Field}
      (named : Text.isBlankText name = false) (composite : kind ≠ .scalar)
      (inside : ∀ child ∈ children, WellFormed child) :
      WellFormed ⟨name, kind, typeName, some children⟩

mutual

theorem validate_eq_ok_iff : (field : Field) → (field.validate = .ok () ↔ field.WellFormed)
  | ⟨name, kind, typeName, subFields⟩ => by
      unfold validate
      cases named : Text.isBlankText name with
      | true =>
          simp only [↓reduceIte, reduceCtorEq, false_iff]
          intro wellFormed
          cases wellFormed with
          | scalar nonblank | nested nonblank => simp [named] at nonblank
      | false =>
          simp only [Bool.false_eq_true, ↓reduceIte]
          cases subFields with
          | none =>
              cases kind with
              | scalar => exact ⟨fun _ => .scalar named, fun _ => rfl⟩
              | object | list => exact ⟨nofun, nofun⟩
          | some children =>
              have below := validateAll_eq_ok_iff children
              cases kind with
              | scalar =>
                  refine ⟨nofun, ?_⟩
                  intro wellFormed
                  cases wellFormed with
                  | nested _ composite _ => exact absurd rfl composite
              | object | list =>
                  constructor
                  · intro valid
                    exact .nested named nofun (below.mp valid)
                  · intro wellFormed
                    cases wellFormed with
                    | nested _ _ inside => exact below.mpr inside

theorem validateAll_eq_ok_iff :
    (fields : List Field) → (validateAll fields = .ok () ↔ ∀ field ∈ fields, field.WellFormed)
  | [] => by simp [validateAll]
  | first :: rest => by
      have head := validate_eq_ok_iff first
      have tail := validateAll_eq_ok_iff rest
      rw [List.forall_mem_cons, ← head, ← tail, validateAll]
      cases first.validate with
      | ok _ => simp [bind, Except.bind]
      | error _ => simp [bind, Except.bind]

end

variable {field : Field} {fields : List Field} {name typeName path : String}

theorem flaw?_eq_none_iff : field.flaw? = none ↔ field.WellFormed := by
  rw [← validate_eq_ok_iff, flaw?]
  split <;> simp_all

theorem WellFormed.named (wellFormed : field.WellFormed) :
    Text.isBlankText field.name = false := by
  cases wellFormed <;> assumption

theorem WellFormed.name_ne_empty (wellFormed : field.WellFormed) : field.name ≠ "" := by
  intro empty
  have named := wellFormed.named
  rw [empty] at named
  contradiction

theorem WellFormed.inside (wellFormed : field.WellFormed) :
    ∀ child ∈ field.children, child.WellFormed := by
  cases wellFormed with
  | scalar => exact nofun
  | nested _ _ inside => exact inside

theorem WellFormed.rename (wellFormed : field.WellFormed)
    (named : Text.isBlankText name = false) : { field with name }.WellFormed := by
  cases wellFormed with
  | scalar => exact .scalar named
  | nested _ composite inside => exact .nested named composite inside

theorem wellFormed_of_resolve? (wellFormed : ∀ field ∈ fields, field.WellFormed)
    (found : resolve? fields path = some field) : field.WellFormed :=
  descend?_keeps (fun _ outer => outer.inside) wellFormed found

end Aggregation.Field
