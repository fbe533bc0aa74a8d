import Aggregation.Proofs.Grid.ShownPage

namespace Aggregation.Grid

/-! How long a grid goes on showing that its metadata failed.

A metadata failure takes no number, and it leaves the window as it finds it.  The
response to a request in flight is therefore applied over it, and a window that was
moved for that request stays moved.  With neither, the failure lasts until a request
is issued or refused.
-/

/-- Whether a caller asked for a request, issued or refused. -/
def Outcome.Asks : Outcome → Prop
  | .asked (.issued _) => True
  | .asked (.refused _) => True
  | _ => False

/-- Whether an operation that asks for no request puts something else in the place of a
text, on a grid that would apply the response to request `seq`. -/
def Operation.Replaces (seq : Nat) (text : String) : Operation → Prop
  | .apply number response =>
    number = seq ∧ ∀ failure, response = .error failure → failure.banner ≠ text
  | .failMetadata error => metadataMessage error ≠ text
  | _ => False

namespace Display

/-- Responses answer requests that were issued, and no other request is asked for. -/
def Waits (d : Display) (operation : Operation) : Prop :=
  d.Responds operation ∧ ¬ (d.grid.perform operation).1.Asks

/-- Whether a grid is in error with a text, over the page applied last in its own window. -/
structure FailsWith (settings : GridSettings) (text : String) (d : Display) : Prop
    extends Shows settings d where
  status : d.grid.status = .error
  error : d.grid.error = some text

end Display

open Display

variable {settings : GridSettings} {d : Display} {grid after : Grid} {operation : Operation}
  {outcome : Outcome} {text : String}

theorem Performs.seq_eq_of_not_asks (performs : Performs grid operation outcome after)
    (silent : ¬ outcome.Asks) : after.seq = grid.seq := by
  have numbers := performs.numbers
  match outcome, numbers with
  | .asked (.issued _), _ => exact absurd trivial silent
  | .asked (.refused _), _ => exact absurd trivial silent
  | .asked .nothing, ⟨seq, _⟩ => exact seq
  | .answered _, ⟨seq, _⟩ => exact seq
  | .done, ⟨seq, _⟩ => exact seq

theorem Display.FailsWith.record_iff (fails : FailsWith settings text d) (kept : Kept settings d)
    (silent : ¬ outcome.Asks) (performs : Performs d.grid operation outcome after) :
    FailsWith settings text (d.record operation outcome after) ↔
      ¬ operation.Replaces d.grid.seq text := by
  obtain ⟨⟨items, totalCount, window⟩, status, error⟩ := fails
  cases performs with
  | issued | refused | resent => exact absurd trivial silent
  | sameInputs | sameDashboard | keptDashboard | columns =>
      exact ⟨fun _ => id, fun _ => ⟨⟨items, totalCount, window⟩, status, error⟩⟩
  | metadata =>
      constructor
      · intro fails differs
        exact differs (Option.some.inj fails.error)
      · intro same
        exact ⟨⟨items, totalCount, window⟩, rfl, congrArg some (Classical.not_not.mp same)⟩
  | discarded stale =>
      exact ⟨fun _ replaces => stale replaces.1,
        fun _ => ⟨⟨items, totalCount, window⟩, status, error⟩⟩
  | applied =>
      constructor
      · intro fails
        have loaded : GridStatus.loaded = .error := fails.status
        contradiction
      · intro same
        exact absurd ⟨rfl, nofun⟩ same
  | @failed failure =>
      constructor
      · intro fails replaces
        exact replaces.2 failure rfl (Option.some.inj fails.error)
      · -- The window goes back to that of the page, where it already was.
        intro same
        have banner : failure.banner = text := by
          refine Classical.byContradiction fun differs => same ⟨rfl, ?_⟩
          intro other same
          cases same
          exact differs
        exact ⟨⟨items, totalCount, kept.shown⟩, rfl, congrArg some banner⟩

/-- Until the next request is issued or refused, a grid stays in error with the text of
a metadata failure, over the page it shows and in that page's window, just if the
window was that page's when the metadata failed and the latest request is then
answered, if at all, by failures with the same text. -/
theorem metadata_failure_final_iff (settings : GridSettings) (operations rest : List Operation)
    (error : EngineError)
    (responds : Run.Obeys Display.after Responds (start settings) operations)
    (waits : Run.Obeys Display.after Waits
      ((ofRun settings operations).after (.failMetadata error)) rest) :
    let d := ofRun settings operations
    Run.Always Display.after (FailsWith settings (metadataMessage error))
        (d.after (.failMetadata error)) rest ↔
      d.Shows settings ∧
        ∀ operation ∈ rest, ¬ operation.Replaces d.grid.seq (metadataMessage error) := by
  intro d
  have kept : Kept settings d :=
    Run.play_keeps (Kept settings)
      (fun d operation kept responds => kept.record responds (perform_performs d.grid operation))
      (kept_start settings) responds
  have failed : Kept settings (d.after (.failMetadata error)) := kept.record trivial .metadata
  have keeps : ∀ (reached : Display) operation,
      Kept settings reached ∧ reached.grid.seq = d.grid.seq → reached.Waits operation →
      Kept settings (reached.after operation) ∧
        (reached.after operation).grid.seq = d.grid.seq := by
    intro reached operation before waits
    obtain ⟨kept, number⟩ := before
    obtain ⟨responds, silent⟩ := waits
    have performs := perform_performs reached.grid operation
    exact ⟨kept.record responds performs, (performs.seq_eq_of_not_asks silent).trans number⟩
  have decides : ∀ (reached : Display) operation,
      Kept settings reached ∧ reached.grid.seq = d.grid.seq →
      FailsWith settings (metadataMessage error) reached → reached.Waits operation →
      (FailsWith settings (metadataMessage error) (reached.after operation) ↔
        ¬ operation.Replaces d.grid.seq (metadataMessage error)) := by
    intro reached operation before fails waits
    obtain ⟨kept, number⟩ := before
    rw [← number]
    exact fails.record_iff kept waits.2 (perform_performs reached.grid operation)
  rw [Run.always_iff _ keeps decides ⟨failed, rfl⟩ waits]
  refine and_congr_left fun _ => ⟨fun fails => ?_, fun shows => ⟨?_, rfl, rfl⟩⟩
  · exact ⟨fails.items, fails.totalCount, fails.window⟩
  · exact ⟨shows.items, shows.totalCount, shows.window⟩

def unknownIncidents : EngineError := .schema (.unknownQuery "allIncidents")

/-- After a page has failed, neither late responses nor new columns revive the grid. -/
theorem failedPage_metadata_final :
    Run.Obeys Display.after Responds (start {}) failedPage ∧
      Run.Obeys Display.after Waits ((ofRun {} failedPage).after (.failMetadata unknownIncidents))
        [.apply 1 (.ok {}), .setColumns []] ∧
      Run.Always Display.after (FailsWith {} "Schema error: Unknown query: allIncidents")
        ((ofRun {} failedPage).after (.failMetadata unknownIncidents))
        [.apply 1 (.ok {}), .setColumns []] := by
  have responds : Run.Obeys Display.after Responds (start {}) failedPage :=
    ⟨trivial, ⟨_, .head _, rfl⟩, trivial, ⟨_, .head _, rfl⟩, trivial⟩
  have waits : Run.Obeys Display.after Waits
      ((ofRun {} failedPage).after (.failMetadata unknownIncidents))
      [.apply 1 (.ok {}), .setColumns []] :=
    ⟨⟨⟨_, .tail _ (.head _), rfl⟩, id⟩, ⟨trivial, id⟩, trivial⟩
  refine ⟨responds, waits, ?_⟩
  refine (metadata_failure_final_iff {} failedPage _ unknownIncidents responds waits).mpr ?_
  refine ⟨⟨rfl, rfl, rfl⟩, ?_⟩
  simp only [List.forall_mem_cons, List.not_mem_nil, false_implies, implies_true, and_true]
  exact ⟨fun replaces => absurd replaces.1 (by decide), id⟩

/-- The first page is shown, and the next one is on its way. -/
def awaitedPage : List Operation := failedPage.take 3

/-- The page that was on its way is shown in spite of the metadata, in whose error the
grid had that page's window over the items of the first. -/
theorem awaitedPage_metadata_revived :
    let failed := (ofRun {} awaitedPage).after (.failMetadata unknownIncidents)
    let late : Operation := .apply 2 (.ok ⟨[.bool true], 30⟩)
    Run.Obeys Display.after Responds (start {}) awaitedPage ∧
      Run.Obeys Display.after Waits failed [late] ∧
      failed.grid.window = ⟨10, 20⟩ ∧ failed.window {} = ⟨0, 10⟩ ∧
      (failed.after late).grid.status = .loaded ∧ (failed.after late).grid.error = none := by
  exact ⟨⟨trivial, ⟨_, .head _, rfl⟩, trivial, trivial⟩, ⟨⟨⟨_, .head _, rfl⟩, id⟩, trivial⟩,
    rfl, rfl, rfl, rfl⟩

end Aggregation.Grid
