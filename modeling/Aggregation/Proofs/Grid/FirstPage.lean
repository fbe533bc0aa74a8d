import Aggregation.Proofs.Grid.Coherence

namespace Aggregation.Grid

/-! Whether new inputs are shown from their first page on.

New inputs ask for their first page at once.  If that page fails, or cannot be asked
for, the grid goes back to the window of the page it still shows, and that page belongs
to the old inputs.  To load again is then to ask for the new inputs' page in the old
window; every other way to go on starts at the first page.
-/

/-- Whether an operation assembles a request for the window as it is. -/
def Reloads (grid : Grid) : Operation → Prop
  | .load => True
  | .retry => grid.failedRequest = none
  | _ => False

/-- Whether an operation asks again for the page shown, not the first one, to which the
grid went back after an error. -/
def ReloadsShownPage (grid : Grid) (operation : Operation) : Prop :=
  grid.Reloads operation ∧ grid.status = .error ∧ grid.window = grid.shown ∧
    grid.shown.skip ≠ 0 ∧ ∃ request, grid.buildRequest = .ok request

namespace Transcript

/-- Any operation but a change of page; responses answer requests that were issued. -/
def StaysOnPage (t : Transcript) : Operation → Prop
  | .setPage _ _ => False
  | operation => t.Responds operation

def FirstPagesSince (number : Nat) (t : Transcript) : Prop :=
  ∀ pending ∈ t.issued, number < pending.seq → pending.request.skip = 0

/-- While only first pages were asked for beyond `number`, the window is that of a first
page, or after an error that of the page shown. -/
structure Restarted (number : Nat) (t : Transcript) : Prop extends Coherent t where
  later : number < t.grid.seq
  window : t.FirstPagesSince number →
    t.grid.window.skip = 0 ∨ t.grid.status = .error ∧ t.grid.window = t.grid.shown

end Transcript

open Transcript

variable {t : Transcript} {grid prepared after : Grid} {operation : Operation}
  {outcome : Outcome} {pending : PendingRequest} {request : AggregationRequest}
  {debounce number : Nat}

theorem skip_of_built (built : grid.buildRequest = .ok request) :
    request.skip = grid.window.skip := by
  rw [(fits_of_built built).2, windowOf]

theorem Prepares.eq_of_reloads (prepares : Prepares grid operation prepared debounce)
    (reloads : grid.Reloads operation) : prepared = grid := by
  cases prepares with
  | load | retry => rfl
  | setInputs | setDashboard | setSort | setPage => exact reloads.elim

theorem Transcript.StaysOnPage.responds (stays : t.StaysOnPage operation) :
    t.Responds operation := by
  cases operation with
  | setPage => exact stays.elim
  | _ => exact stays

/-- Whatever neither loads the window as it is nor changes the page goes to the first. -/
theorem Transcript.StaysOnPage.skip_eq_zero (stays : t.StaysOnPage operation)
    (prepares : Prepares t.grid operation prepared debounce)
    (anew : ¬ t.grid.Reloads operation) : prepared.window.skip = 0 := by
  cases prepares with
  | setInputs | setDashboard | setSort => rfl
  | load => exact absurd trivial anew
  | retry nothing => exact absurd nothing anew
  | setPage => exact stays.elim

namespace Transcript.Restarted

theorem skip_of_awaits (restarted : Restarted number t) (awaits : t.Awaits pending)
    (first : t.FirstPagesSince number) : pending.request.skip = 0 := by
  refine first pending (List.mem_of_mem_head? awaits.1) ?_
  rw [awaits.2]
  exact restarted.later

theorem record (restarted : Restarted number t) (stays : t.StaysOnPage operation)
    (performs : Performs t.grid operation outcome after) :
    Restarted number (t.record operation outcome after) := by
  have coherent := restarted.toCoherent.record stays.responds performs
  have later : number < after.seq := Nat.lt_of_lt_of_le restarted.later performs.seq_le
  refine ⟨coherent, later, fun first => ?_⟩
  have earlier : t.FirstPagesSince number := fun pending member =>
    first pending (List.mem_append_right _ member)
  cases performs with
  | @issued _ prepared _ _ prepares built =>
      have skip : prepared.window.skip = 0 :=
        (skip_of_built built).symm.trans (first _ (.head _) later)
      exact .inl skip
  | refused | failed => exact .inr ⟨rfl, rfl⟩
  | resent failed => exact .inl (first _ (.head _) later)
  | sameInputs | sameDashboard | keptDashboard | columns | discarded =>
      exact restarted.window earlier
  | metadata => exact (restarted.window earlier).imp_right fun ⟨_, shown⟩ => ⟨rfl, shown⟩
  | applied =>
      obtain ⟨pending, awaits, last⟩ := restarted.awaits_of_responds stays.responds
      have skip := restarted.skip_of_awaits awaits earlier
      exact .inl (by simpa [Transcript.record, applyPage, last] using skip)

theorem skip_eq_zero_iff (restarted : Restarted number t) (first : t.FirstPagesSince number)
    (stays : t.StaysOnPage operation) (prepares : Prepares t.grid operation prepared debounce)
    (built : prepared.buildRequest = .ok request) :
    request.skip = 0 ↔ ¬ t.grid.ReloadsShownPage operation := by
  rw [skip_of_built built]
  by_cases reloads : t.grid.Reloads operation
  · obtain rfl := prepares.eq_of_reloads reloads
    constructor
    · intro skip shown
      obtain ⟨-, -, window, elsewhere, -⟩ := shown
      rw [window] at skip
      exact elsewhere skip
    · intro other
      rcases restarted.window first with skip | ⟨error, window⟩
      · exact skip
      · -- The window is that of the page shown, and this is what was ruled out.
        refine Classical.byContradiction fun elsewhere => other ?_
        rw [window] at elsewhere
        exact ⟨reloads, error, window, elsewhere, request, built⟩
  · have skip := stays.skip_eq_zero prepares reloads
    exact ⟨fun _ shown => reloads shown.1, fun _ => skip⟩

/-- What one operation does to the pages asked for so far. -/
theorem firstPagesSince_iff (restarted : Restarted number t) (stays : t.StaysOnPage operation)
    (performs : Performs t.grid operation outcome after) :
    FirstPagesSince number (t.record operation outcome after) ↔
      FirstPagesSince number t ∧ ¬ t.grid.ReloadsShownPage operation := by
  have later : number < after.seq := Nat.lt_of_lt_of_le restarted.later performs.seq_le
  cases performs with
  | @issued operation prepared debounce request prepares built =>
      have more : FirstPagesSince number (t.record operation
          (.asked (.issued (prepared.track request debounce).1))
          (prepared.track request debounce).2) ↔
          (number < prepared.seq + 1 → request.skip = 0) ∧ FirstPagesSince number t :=
        List.forall_mem_cons
      rw [more, and_comm]
      refine and_congr_right fun first => ?_
      rw [← restarted.skip_eq_zero_iff first stays prepares built]
      exact ⟨fun skip => skip later, fun skip _ => skip⟩
  | refused prepares built =>
      refine ⟨fun first => ⟨first, ?_⟩, And.left⟩
      intro shown
      obtain ⟨reloads, -, -, -, request, accepted⟩ := shown
      rw [← prepares.eq_of_reloads reloads, built] at accepted
      contradiction
  | resent failed =>
      -- What is sent again was waited for, so its number is beyond `number` too.
      obtain ⟨pending, awaits, rfl⟩ := restarted.failed _ failed
      constructor
      · intro first
        refine ⟨fun earlier member => first earlier (List.mem_cons_of_mem _ member), ?_⟩
        intro shown
        have nothing : t.grid.failedRequest = none := shown.1
        rw [failed] at nothing
        contradiction
      · intro kept
        have first := kept.1
        have skip := restarted.skip_of_awaits awaits first
        exact List.forall_mem_cons.mpr ⟨fun _ => skip, first⟩
  | _ => exact ⟨fun first => ⟨first, fun shown => shown.1⟩, And.left⟩

end Transcript.Restarted

/-- The request for new inputs is for their first page. -/
theorem Transcript.Coherent.restarted (coherent : Coherent t) {inputs : GridInputs}
    (changed : (t.grid.inputs == some inputs) = false)
    (performs : Performs t.grid (.setInputs inputs) outcome after) :
    Restarted t.grid.seq (t.record (.setInputs inputs) outcome after) ∧
      FirstPagesSince t.grid.seq (t.record (.setInputs inputs) outcome after) := by
  have responds : t.Responds (.setInputs inputs) := trivial
  have next := coherent.record responds performs
  have first : FirstPagesSince t.grid.seq t := by
    intro pending member beyond
    have bound := coherent.bounded pending member
    omega
  cases performs with
  | @issued _ prepared debounce request prepares built =>
      have skip : request.skip = 0 := by
        rw [skip_of_built built]
        cases prepares
        rfl
      have number : prepared.seq = t.grid.seq := prepares.seq_eq
      refine ⟨⟨next, ?_, fun firsts => ?_⟩, ?_⟩
      · change t.grid.seq < prepared.seq + 1
        omega
      · exact .inl ((skip_of_built built).symm.trans skip)
      · exact List.forall_mem_cons.mpr ⟨fun _ => skip, first⟩
  | @refused _ prepared _ _ prepares built =>
      have number : prepared.seq = t.grid.seq := prepares.seq_eq
      refine ⟨⟨next, ?_, fun _ => .inr ⟨rfl, rfl⟩⟩, first⟩
      change t.grid.seq < prepared.seq + 1
      omega
  | sameInputs same =>
      rw [changed] at same
      contradiction

/-- After new inputs, and until the page is changed, every request is for the first page
just if no operation loads again, or retries with nothing to send again, when an error
has taken the grid back to a page shown that is not the first. -/
theorem new_inputs_first_page_iff (settings : GridSettings) (before interval : List Operation)
    (inputs : GridInputs)
    (responds : Run.Obeys Transcript.after Responds (start settings) before)
    (changed : ((ofRun settings before).grid.inputs == some inputs) = false)
    (stays : Run.Obeys Transcript.after StaysOnPage
      ((ofRun settings before).after (.setInputs inputs)) interval) :
    let t := ofRun settings before
    let reached := Run.play Transcript.after (t.after (.setInputs inputs))
    (∀ pending ∈ (reached interval).issued, t.grid.seq < pending.seq → pending.request.skip = 0) ↔
      ∀ earlier operation later, interval = earlier ++ operation :: later →
        ¬ (reached earlier).grid.ReloadsShownPage operation := by
  intro t reached
  obtain ⟨restarted, first⟩ := (coherent_ofRun responds).restarted changed
    (perform_performs t.grid (.setInputs inputs))
  have step := Run.holds_play_iff (FirstPagesSince t.grid.seq)
    (fun t operation restarted stays =>
      Restarted.record restarted stays (perform_performs t.grid operation))
    (fun t operation restarted stays =>
      restarted.firstPagesSince_iff stays (perform_performs t.grid operation))
    restarted stays
  exact ⟨fun firsts => (step.mp firsts).2, fun others => step.mpr ⟨first, others⟩⟩

/-- The second page of the incidents is shown. -/
def secondPage : List Operation :=
  [.setInputs { dataSourceId := "incidents" }, .apply 1 (.ok ⟨[.null], 30⟩), .setPage 10 10,
    .apply 2 (.ok ⟨[.null], 30⟩)]

def alerts : GridInputs := { dataSourceId := "alerts" }

theorem secondPage_responds :
    Run.Obeys Transcript.after Responds (Transcript.start {}) secondPage :=
  ⟨trivial, ⟨_, .head _, rfl⟩, trivial, ⟨_, .head _, rfl⟩, trivial⟩

/-- A retry sends the first page of the alerts again. -/
theorem secondPage_alerts_retried :
    let t := ofRun {} secondPage
    let reached := Run.play Transcript.after (t.after (.setInputs alerts))
    let interval : List Operation := [.apply 3 (.error (.timeout 15)), .retry, .setColumns []]
    Run.Obeys Transcript.after Responds (Transcript.start {}) secondPage ∧
      (t.grid.inputs == some alerts) = false ∧
      Run.Obeys Transcript.after StaysOnPage (t.after (.setInputs alerts)) interval ∧
      (reached interval).grid.seq = 4 ∧ (reached interval).grid.window = ⟨0, 10⟩ ∧
      ∀ earlier operation later, interval = earlier ++ operation :: later →
        ¬ (reached earlier).grid.ReloadsShownPage operation := by
  intro t reached interval
  have changed : (t.grid.inputs == some alerts) = false := by decide
  have stays : Run.Obeys Transcript.after StaysOnPage (t.after (.setInputs alerts)) interval :=
    ⟨⟨_, .head _, rfl⟩, trivial, trivial, trivial⟩
  refine ⟨secondPage_responds, changed, stays, rfl, rfl, ?_⟩
  refine (new_inputs_first_page_iff {} secondPage interval alerts secondPage_responds changed
    stays).mp ?_
  decide

/-- Loading again after that failure asks for the second page of the alerts. -/
theorem secondPage_alerts_reloaded :
    let t := ofRun {} secondPage
    let interval : List Operation := [.apply 3 (.error (.timeout 15)), .load]
    Run.Obeys Transcript.after Responds (Transcript.start {}) secondPage ∧
      (t.grid.inputs == some alerts) = false ∧
      Run.Obeys Transcript.after StaysOnPage (t.after (.setInputs alerts)) interval ∧
      ∃ pending ∈ (Run.play Transcript.after (t.after (.setInputs alerts)) interval).issued,
        t.grid.seq < pending.seq ∧ pending.request.dataSourceId = "alerts" ∧
        pending.request.skip = 10 := by
  exact ⟨secondPage_responds, by decide, ⟨⟨_, .head _, rfl⟩, trivial, trivial⟩, _, .head _,
    by decide, rfl, rfl⟩

end Aggregation.Grid
