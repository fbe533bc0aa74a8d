import Aggregation.Propagation

namespace Aggregation

/-! What one entry of a form writes.

The schema that a stage makes up for a name depends on the entry that asks for it and on the
fields before the stage.  These rules say which entry writes which field, and that is all that
other proofs need of the functions that compute it.
-/

namespace ComputedField

/-- What an entry for a computed field writes: a scalar under its name, if it has one. -/
inductive Writes (available : List Field) : ComputedField → Field → Prop where
  | scalar {computed : ComputedField} : computed.name ≠ "" →
      Writes available computed
        (.makeScalar computed.name (computed.expression.resultType available))

variable {available : List Field}

theorem output?_eq_some_iff (computed : ComputedField) (field : Field) :
    computed.output? available = some field ↔ computed.Writes available field := by
  constructor
  · intro given
    unfold output? at given
    split at given
    · contradiction
    · next nonempty =>
      cases given
      exact .scalar (by simpa using nonempty)
  · rintro ⟨named⟩
    simp [output?, named]

end ComputedField

namespace GroupByRule

/-- What a grouping rule writes under its path: a scalar for the value that it computes, or the
field that the path leads to, or, where any field may exist, one of unknown type. -/
inductive Writes (available : List Field) (unchecked : Bool) : GroupByRule → Field → Prop where
  | computed {rule : GroupByRule} {expression : Expression} : rule.field ≠ "" →
      rule.expression = some expression → expression.operator ≠ "" →
      Writes available unchecked rule
        (.makeScalar rule.field (expression.resultType available))
  | found {rule : GroupByRule} {source : Field} : rule.field ≠ "" →
      (∀ expression, rule.expression = some expression → expression.operator = "") →
      Field.resolve? available rule.field = some source →
      Writes available unchecked rule { source with name := rule.field }
  | unknown {rule : GroupByRule} : rule.field ≠ "" →
      (∀ expression, rule.expression = some expression → expression.operator = "") →
      Field.resolve? available rule.field = none → unchecked = true →
      Writes available unchecked rule (.makeScalar rule.field "Unknown")

variable {available : List Field} {unchecked : Bool} {rule : GroupByRule}

theorem computation?_eq_some_iff {expression : Expression} :
    rule.computation? = some expression ↔
      rule.expression = some expression ∧ expression.operator ≠ "" := by
  simp [computation?, Option.filter_eq_some_iff]

theorem computation?_eq_none_iff : rule.computation? = none ↔
    ∀ expression, rule.expression = some expression → expression.operator = "" := by
  simp [computation?, Option.filter_eq_none_iff]

theorem output?_eq_some_iff (rule : GroupByRule) (field : Field) :
    rule.output? available unchecked = some field ↔ rule.Writes available unchecked field := by
  constructor
  · intro given
    unfold output? at given
    split at given
    · contradiction
    · next nonempty =>
      have named : rule.field ≠ "" := by simpa using nonempty
      split at given
      · next expression computes =>
        obtain ⟨carried, operates⟩ := computation?_eq_some_iff.mp computes
        cases given
        exact .computed named carried operates
      · next computes =>
        have idle := computation?_eq_none_iff.mp computes
        split at given
        · next source found =>
          cases given
          exact .found named idle found
        · next absent =>
          split at given
          · next marked =>
            cases given
            exact .unknown named idle absent marked
          · contradiction
  · intro writes
    cases writes with
    | computed named carried operates =>
        simp [output?, named, computation?_eq_some_iff.mpr ⟨carried, operates⟩]
    | found named idle found => simp [output?, named, computation?_eq_none_iff.mpr idle, found]
    | unknown named idle absent marked =>
        simp [output?, named, computation?_eq_none_iff.mpr idle, absent, marked]

end GroupByRule

end Aggregation
