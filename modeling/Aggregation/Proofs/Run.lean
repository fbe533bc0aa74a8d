namespace Aggregation.Run

/-! Runs of a machine that a function `next` steps.

A rule says which actions may happen in which state.  A property that every
allowed action keeps holds at the end of every run that obeys the rule.
-/

variable {State Action : Type} {next : State → Action → State}
  {rule : State → Action → Prop} {state : State} {actions : List Action}

/-- The state after all actions, taken in order. -/
def play (next : State → Action → State) : State → List Action → State
  | state, [] => state
  | state, action :: rest => play next (next state action) rest

/-- Whether the rule allows each action where it happens. -/
def Obeys (next : State → Action → State) (rule : State → Action → Prop) :
    State → List Action → Prop
  | _, [] => True
  | state, action :: rest => rule state action ∧ Obeys next rule (next state action) rest

/-- Whether a property holds in every state of a run, the first and the last included. -/
def Always (next : State → Action → State) (Holds : State → Prop) : State → List Action → Prop
  | state, [] => Holds state
  | state, action :: rest => Holds state ∧ Always next Holds (next state action) rest

theorem play_append (earlier later : List Action) :
    play next state (earlier ++ later) = play next (play next state earlier) later := by
  induction earlier generalizing state with
  | nil => rfl
  | cons action rest ih => exact ih

theorem obeys_append_iff {earlier later : List Action} :
    Obeys next rule state (earlier ++ later) ↔
      Obeys next rule state earlier ∧ Obeys next rule (play next state earlier) later := by
  induction earlier generalizing state with
  | nil => exact (and_iff_right trivial).symm
  | cons action rest ih => rw [List.cons_append, Obeys, ih, Obeys, play, and_assoc]

theorem obeys_unruled : Obeys next (fun _ _ => True) state actions := by
  induction actions generalizing state with
  | nil => trivial
  | cons action rest ih => exact ⟨trivial, ih⟩

/-- What holds at the start and is kept by every allowed action holds at the end. -/
theorem play_keeps (Holds : State → Prop)
    (keeps : ∀ state action, Holds state → rule state action → Holds (next state action))
    (start : Holds state) (obeyed : Obeys next rule state actions) :
    Holds (play next state actions) := by
  induction actions generalizing state with
  | nil => exact start
  | cons action rest ih => exact ih (keeps _ _ start obeyed.1) obeyed.2

/-- Where each action either keeps a property or is one that breaks it, the
property holds at the end just if it held at the start and no action broke it. -/
theorem holds_play_iff {Inv : State → Prop} (Holds : State → Prop)
    {Breaks : State → Action → Prop}
    (keeps : ∀ state action, Inv state → rule state action → Inv (next state action))
    (decides : ∀ state action, Inv state → rule state action →
      (Holds (next state action) ↔ Holds state ∧ ¬ Breaks state action))
    (start : Inv state) (obeyed : Obeys next rule state actions) :
    Holds (play next state actions) ↔
      Holds state ∧ ∀ before action later, actions = before ++ action :: later →
        ¬ Breaks (play next state before) action := by
  induction actions generalizing state with
  | nil => simp [play]
  | cons action rest ih =>
      rw [play, ih (keeps _ _ start obeyed.1) obeyed.2, decides _ _ start obeyed.1]
      constructor
      · rintro ⟨⟨holds, first⟩, others⟩
        refine ⟨holds, ?_⟩
        intro before broken later split
        cases before with
        | nil =>
            obtain ⟨rfl, rfl⟩ := List.cons.inj split
            exact first
        | cons head before =>
            obtain ⟨rfl, rests⟩ := List.cons.inj split
            exact others before broken later rests
      · rintro ⟨holds, unbroken⟩
        refine ⟨⟨holds, unbroken [] action rest rfl⟩, ?_⟩
        intro before broken later split
        exact unbroken (action :: before) broken later (by rw [split, List.cons_append])

/-- Where a property, once it holds, is lost by certain actions only, it holds all along
a run just if it held at the start and none of them was taken. -/
theorem always_iff {Inv : State → Prop} (Holds : State → Prop) {Breaks : Action → Prop}
    (keeps : ∀ state action, Inv state → rule state action → Inv (next state action))
    (decides : ∀ state action, Inv state → Holds state → rule state action →
      (Holds (next state action) ↔ ¬ Breaks action))
    (start : Inv state) (obeyed : Obeys next rule state actions) :
    Always next Holds state actions ↔ Holds state ∧ ∀ action ∈ actions, ¬ Breaks action := by
  induction actions generalizing state with
  | nil => simp [Always]
  | cons action rest ih =>
      rw [Always, ih (keeps _ _ start obeyed.1) obeyed.2, List.forall_mem_cons]
      refine and_congr_right fun holds => ?_
      rw [decides _ _ start holds obeyed.1]

end Aggregation.Run
