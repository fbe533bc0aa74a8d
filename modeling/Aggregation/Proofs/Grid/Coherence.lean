import Aggregation.Proofs.Grid.Transcript

namespace Aggregation.Grid

/-! What a grid shows and waits for always belongs to what it would ask for now.

The invariant speaks of the awaited request alone.  While there is one, nothing
that it was made of has changed, except that the window may have been set back
after a failure; `retry` and a late page put the window forward again.
-/

def windowOf (request : AggregationRequest) : GridWindow := ⟨request.skip, request.first⟩

/-- Whether a grid that has a request's window would ask for that very request. -/
def Fits (grid : Grid) (request : AggregationRequest) : Prop :=
  ∃ inputs, grid.inputs = some inputs ∧ request.first ≠ 0 ∧
    request = { grid with window := windowOf request }.wanted inputs

namespace Transcript

structure Coherent (t : Transcript) : Prop extends Numbered t where
  fits : ∀ pending, t.Awaits pending → Fits t.grid pending.request
  failed : ∀ request, t.grid.failedRequest = some request →
    ∃ pending, t.Awaits pending ∧ pending.request = request
  live : t.grid.status = .loading ∨ t.grid.status = .loaded →
    ∃ pending, t.Awaits pending ∧ t.grid.window = windowOf pending.request
  page : t.grid.status = .loaded → ∃ page, (t.grid.seq, Except.ok page) ∈ t.answers ∧
    t.grid.items = page.items ∧ t.grid.totalCount = page.totalCount

end Transcript

open Transcript

variable {t : Transcript} {grid prepared after : Grid} {operation : Operation}
  {outcome : Outcome} {request : AggregationRequest} {debounce : Nat}

theorem fits_of_built (built : grid.buildRequest = .ok request) :
    Fits grid request ∧ grid.window = windowOf request := by
  obtain ⟨inputs, given, sized, -, rfl⟩ := buildRequest_ok_iff.mp built
  exact ⟨⟨inputs, given, sized, rfl⟩, rfl⟩

theorem coherent_start (settings : GridSettings) : Coherent (start settings) where
  toNumbered := numbered_start settings
  fits _ awaits := nomatch awaits.1
  failed _ failed := nomatch failed
  live live := by rcases live with loading | loaded <;> contradiction
  page loaded := nomatch loaded

/-- Issuing a request that fits the grid, which has the request's window. -/
theorem Transcript.Coherent.track (coherent : Coherent t) (fits : Fits grid request)
    (window : grid.window = windowOf request)
    (performs : Performs t.grid operation (.asked (.issued (grid.track request debounce).1))
      (grid.track request debounce).2) :
    Coherent (t.record operation (.asked (.issued (grid.track request debounce).1))
      (grid.track request debounce).2) where
  toNumbered := coherent.toNumbered.record performs
  fits pending awaits := by
    obtain rfl : (grid.track request debounce).1 = pending := Option.some.inj awaits.1
    exact fits
  failed _ failed := nomatch failed
  live _ := ⟨_, ⟨rfl, rfl⟩, window⟩
  page loaded := nomatch loaded

theorem Transcript.Coherent.refuse (coherent : Coherent t) {error : ValidationError}
    (seq : grid.seq = t.grid.seq)
    (performs : Performs t.grid operation (.asked (.refused error)) (grid.refuse error)) :
    Coherent (t.record operation (.asked (.refused error)) (grid.refuse error)) where
  toNumbered := coherent.toNumbered.record performs
  -- The number just taken is beyond that of every issued request.
  fits pending awaits := by
    have bound := coherent.bounded pending (List.mem_of_mem_head? awaits.1)
    have current : pending.seq = grid.seq + 1 := awaits.2
    omega
  failed _ failed := nomatch failed
  live live := by rcases live with loading | loaded <;> contradiction
  page loaded := nomatch loaded

theorem Transcript.Coherent.record (coherent : Coherent t) (responds : t.Responds operation)
    (performs : Performs t.grid operation outcome after) :
    Coherent (t.record operation outcome after) := by
  have numbered := coherent.toNumbered.record performs
  cases performs with
  | issued prepares built =>
      obtain ⟨fits, window⟩ := fits_of_built built
      exact coherent.track fits window (.issued prepares built)
  | refused prepares built =>
      exact coherent.refuse prepares.seq_eq (.refused prepares built)
  | resent failed =>
      obtain ⟨pending, awaits, rfl⟩ := coherent.failed _ failed
      exact coherent.track (coherent.fits pending awaits) rfl (.resent failed)
  | sameInputs same => exact coherent
  | sameDashboard same => exact coherent
  | keptDashboard missing =>
      refine ⟨numbered, ?_, coherent.failed, coherent.live, coherent.page⟩
      intro pending awaits
      obtain ⟨inputs, given, -⟩ := coherent.fits pending awaits
      rw [missing] at given
      contradiction
  | columns => exact ⟨numbered, coherent.fits, coherent.failed, coherent.live, coherent.page⟩
  | metadata =>
      refine ⟨numbered, coherent.fits, coherent.failed, ?_, ?_⟩
      · rintro (loading | loaded) <;> contradiction
      · intro loaded
        contradiction
  | discarded stale =>
      refine ⟨numbered, coherent.fits, coherent.failed, coherent.live, ?_⟩
      intro loaded
      obtain ⟨page, answered, shown⟩ := coherent.page loaded
      exact ⟨page, List.mem_cons_of_mem _ answered, shown⟩
  | @applied page =>
      obtain ⟨pending, awaits, last⟩ := coherent.awaits_of_responds responds
      refine ⟨numbered, coherent.fits, coherent.failed, ?_, ?_⟩
      · intro live
        refine ⟨pending, awaits, ?_⟩
        simp [Transcript.record, applyPage, last, windowOf]
      · intro loaded
        exact ⟨page, List.mem_cons_self, rfl, rfl⟩
  | failed =>
      obtain ⟨pending, awaits, last⟩ := coherent.awaits_of_responds responds
      refine ⟨numbered, coherent.fits, ?_, ?_, ?_⟩
      · intro request failed
        exact ⟨pending, awaits, Option.some.inj (last.symm.trans failed)⟩
      · rintro (loading | loaded) <;> contradiction
      · intro loaded
        contradiction

theorem coherent_ofRun {settings : GridSettings} {operations : List Operation}
    (responds : Run.Obeys Transcript.after Responds (start settings) operations) :
    Coherent (ofRun settings operations) :=
  Run.play_keeps Coherent (fun t operation coherent responds =>
    coherent.record responds (perform_performs t.grid operation)) (coherent_start settings) responds

/-- While a grid is loading or shows what it loaded, its latest request is the one
that its present inputs, dashboard, sort and window make.  A loaded grid shows the
page that answered the request of its number, and no response with any other
number changes anything. -/
theorem latest_request_coherent (settings : GridSettings) (operations : List Operation)
    (responds : Run.Obeys Transcript.after Responds (start settings) operations) :
    let t := ofRun settings operations
    (t.grid.status = .loading ∨ t.grid.status = .loaded →
      ∃ latest inputs, t.issued.head? = some latest ∧ t.grid.inputs = some inputs ∧
        t.grid.window.pageSize ≠ 0 ∧
        latest.request = AggregationRequest.assemble inputs.aggregation t.grid.dashboard
          (t.grid.query inputs)) ∧
    (t.grid.status = .loaded →
      ∃ latest page, t.issued.head? = some latest ∧ latest.seq = t.grid.seq ∧
        (t.grid.seq, Except.ok page) ∈ t.answers ∧
        t.grid.items = page.items ∧ t.grid.totalCount = page.totalCount) ∧
    ∀ seq response, seq ≠ t.grid.seq → t.grid.apply seq response = (.discarded seq, t.grid) := by
  intro t
  have coherent : Coherent t := coherent_ofRun responds
  refine ⟨?_, ?_, ?_⟩
  · intro live
    obtain ⟨latest, awaits, window⟩ := coherent.live live
    obtain ⟨inputs, given, sized, made⟩ := coherent.fits latest awaits
    rw [← window] at made
    refine ⟨latest, inputs, awaits.1, given, ?_, made⟩
    rw [window]
    exact sized
  · intro loaded
    obtain ⟨latest, awaits, -⟩ := coherent.live (.inr loaded)
    obtain ⟨page, answered, shown⟩ := coherent.page loaded
    exact ⟨latest, page, awaits.1, awaits.2, answered, shown⟩
  · intro seq response stale
    simp [Grid.apply, stale]

/-- A page that fails, and is loaded by a retry after a late response to the first. -/
def retriedPage : List Operation :=
  [.setInputs { dataSourceId := "incidents" }, .apply 1 (.ok ⟨[.null], 30⟩), .setPage 10 20,
    .apply 2 (.error (.timeout 15)), .apply 1 (.ok {}), .retry, .apply 3 (.ok ⟨[.bool true], 31⟩)]

theorem retriedPage_coherent :
    Run.Obeys Transcript.after Responds (start {}) retriedPage ∧
      (ofRun {} retriedPage).grid.status = .loaded ∧
      (∃ latest inputs, (ofRun {} retriedPage).issued.head? = some latest ∧
        (ofRun {} retriedPage).grid.inputs = some inputs ∧
        (ofRun {} retriedPage).grid.window.pageSize ≠ 0 ∧
        latest.request = AggregationRequest.assemble inputs.aggregation
          (ofRun {} retriedPage).grid.dashboard ((ofRun {} retriedPage).grid.query inputs)) ∧
      (∃ latest, (ofRun {} retriedPage).issued.head? = some latest ∧ latest.seq = 3) ∧
      (3, Except.ok ⟨[.bool true], 31⟩) ∈ (ofRun {} retriedPage).answers ∧
      (ofRun {} retriedPage).grid.items = [.bool true] ∧
      (ofRun {} retriedPage).grid.totalCount = 31 ∧
      (ofRun {} retriedPage).grid.apply 2 (.ok {}) =
        (.discarded 2, (ofRun {} retriedPage).grid) := by
  have responds : Run.Obeys Transcript.after Responds (start {}) retriedPage :=
    ⟨trivial, ⟨_, .head _, rfl⟩, trivial, ⟨_, .head _, rfl⟩, ⟨_, .tail _ (.head _), rfl⟩, trivial,
      ⟨_, .head _, rfl⟩, trivial⟩
  have loaded : (ofRun {} retriedPage).grid.status = .loaded := rfl
  have number : (ofRun {} retriedPage).grid.seq = 3 := rfl
  obtain ⟨made, shown, discards⟩ := latest_request_coherent {} retriedPage responds
  obtain ⟨latest, page, head, current, answered, items, total⟩ := shown loaded
  rw [number] at current answered
  have answers : (ofRun {} retriedPage).answers = [(3, .ok ⟨[.bool true], 31⟩), (1, .ok {}),
    (2, .error (.timeout 15)), (1, .ok ⟨[.null], 30⟩)] := rfl
  -- Only one response was handed in under the number 3.
  obtain rfl : page = ⟨[.bool true], 31⟩ := by simpa [answers] using answered
  exact ⟨responds, loaded, made (.inr loaded), ⟨latest, head, current⟩, answered, items, total,
    discards 2 (.ok {}) (by decide)⟩

end Aggregation.Grid
