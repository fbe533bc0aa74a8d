import Aggregation.Proofs.Run
import Aggregation.Proofs.Propagation.Composition

namespace Aggregation.Propagation

/-! What is known after stages applied one at a time.

Each stage is given with the index that its issues are recorded under, which may be any.  The
state that is reached has fields with distinct names, and remembers of the stages only whether
one was custom.  What was recorded before a stage makes no difference to what follows it.
-/

def step (p : Propagation) (indexed : Nat × Stage) : Propagation := p.apply indexed.1 indexed.2

/-- What is known once the stages of some steps were applied to the given fields. -/
def reached (fields : List Field) (steps : List (Nat × Stage)) : Propagation :=
  Run.play step (.start fields) steps

theorem nodup_names_reached (fields : List Field) (steps : List (Nat × Stage)) :
    (Field.names (reached fields steps).fields).Nodup :=
  Run.play_keeps (fun p : Propagation => (Field.names p.fields).Nodup)
    (fun p indexed distinct _ => Stage.nodup_names_output distinct indexed.2 p.unchecked)
    (Field.nodup_names_distinct fields) Run.obeys_unruled

theorem unchecked_play (p : Propagation) (steps : List (Nat × Stage)) :
    (Run.play step p steps).unchecked = (p.unchecked || steps.any (·.2.isCustom)) := by
  induction steps generalizing p with
  | nil => exact (Bool.or_false _).symm
  | cons indexed rest ih => rw [Run.play, ih, List.any_cons, step, apply, Bool.or_assoc]

theorem unchecked_reached (fields : List Field) (steps : List (Nat × Stage)) :
    (reached fields steps).unchecked = steps.any (·.2.isCustom) := by
  rw [reached, unchecked_play, start, Bool.false_or]

/-- What was recorded before stays before all that follows, which it does not change. -/
theorem play_continuing (p : Propagation) (earlier : List Diagnostic)
    (steps : List (Nat × Stage)) :
    Run.play step (p.continuing earlier 0) steps =
      (Run.play step p steps).continuing earlier 0 := by
  induction steps generalizing p with
  | nil => rfl
  | cons indexed rest ih =>
      have first := p.apply_continuing earlier 0 indexed.1 indexed.2
      rw [Nat.zero_add] at first
      rw [Run.play, step, first, ih, Run.play, step]

end Aggregation.Propagation
