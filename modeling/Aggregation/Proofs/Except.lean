namespace Aggregation

/-! Computations that may fail. -/

variable {ε δ η α β γ ζ : Type}

theorem exists_of_bind_eq_ok {action : Except ε α} {next : α → Except ε β} {value : β}
    (succeeded : action >>= next = .ok value) :
    ∃ before, action = .ok before ∧ next before = .ok value := by
  cases action with
  | error error => contradiction
  | ok before => exact ⟨before, rfl, succeeded⟩

theorem exists_of_map_eq_ok {change : α → β} {action : Except ε α} {value : β}
    (mapped : action.map change = .ok value) :
    ∃ before, action = .ok before ∧ value = change before := by
  cases action with
  | error error => contradiction
  | ok before =>
      cases mapped
      exact ⟨before, rfl, rfl⟩

theorem mapError_eq_ok_iff {change : ε → δ} {action : Except ε α} {value : α} :
    action.mapError change = .ok value ↔ action = .ok value := by
  cases action with
  | error error => exact ⟨nofun, nofun⟩
  | ok value =>
      constructor <;>
        rintro ⟨⟩
      all_goals rfl

/-- Whether two computations fail together, or come to related results. -/
inductive InStep (Related : α → β → Prop) : Except ε α → Except δ β → Prop where
  | done {left : α} {right : β} (related : Related left right) :
      InStep Related (.ok left) (.ok right)
  | failed {error : ε} {failure : δ} : InStep Related (.error error) (.error failure)

namespace InStep

variable {Related : α → β → Prop} {Further : γ → ζ → Prop} {left : Except ε α}
  {right : Except δ β}

theorem same (action : Except ε α) : InStep Eq action action := by
  cases action with
  | error error => exact .failed
  | ok value => exact .done rfl

theorem bind {next : α → Except ε γ} {after : β → Except δ ζ} (first : InStep Related left right)
    (second : ∀ a b, Related a b → InStep Further (next a) (after b)) :
    InStep Further (left >>= next) (right >>= after) := by
  cases first with
  | done related => exact second _ _ related
  | failed => exact .failed

theorem imp {Weaker : α → β → Prop} (inStep : InStep Related left right)
    (weaken : ∀ a b, Related a b → Weaker a b) : InStep Weaker left right := by
  cases inStep with
  | done related => exact .done (weaken _ _ related)
  | failed => exact .failed

theorem mapError {change : δ → η} (inStep : InStep Related left right) :
    InStep Related left (right.mapError change) := by
  cases inStep with
  | done related => exact .done related
  | failed => exact .failed

theorem exists_right (inStep : InStep Related left right) {value : α} (done : left = .ok value) :
    ∃ other, right = .ok other ∧ Related value other := by
  cases inStep with
  | done related =>
      cases done
      exact ⟨_, rfl, related⟩
  | failed => contradiction

theorem exists_left (inStep : InStep Related left right) {value : β} (done : right = .ok value) :
    ∃ other, left = .ok other ∧ Related other value := by
  cases inStep with
  | done related =>
      cases done
      exact ⟨_, rfl, related⟩
  | failed => contradiction

end InStep

end Aggregation
