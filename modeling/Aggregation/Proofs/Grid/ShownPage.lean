import Aggregation.Proofs.Grid.Coherence

namespace Aggregation.Grid

/-! A grid shows the page that it applied last, in that page's window.

A request moves the window before anyone knows whether a page will come of it.  The
window of the items is therefore kept beside them: a failure or a refusal goes back
to it, and only an applied page changes it.  Nothing puts the window right after the
metadata have failed, so that the rules below leave this out.
-/

/-- A transcript with the page that was applied last and the request it answered. -/
structure Display extends Transcript where
  applied : Option (PendingRequest × AggregationPage) := none

/-- The page that an operation applied, with the request issued under its number. -/
def Transcript.applies? (t : Transcript) :
    Outcome → Operation → Option (PendingRequest × AggregationPage)
  | .answered (.applied seq), .apply _ (.ok page) =>
    (t.issued.find? (·.seq == seq)).map (·, page)
  | _, _ => none

namespace Display

def start (settings : GridSettings) : Display := { toTranscript := .start settings }

def record (d : Display) (operation : Operation) (outcome : Outcome) (after : Grid) : Display where
  toTranscript := d.toTranscript.record operation outcome after
  applied := (d.applies? outcome operation).or d.applied

def after (d : Display) (operation : Operation) : Display :=
  d.record operation (d.grid.perform operation).1 (d.grid.perform operation).2

def ofRun (settings : GridSettings) (operations : List Operation) : Display :=
  Run.play after (start settings) operations

def items (d : Display) : List Json := (d.applied.map (·.2.items)).getD []

def totalCount (d : Display) : Nat := (d.applied.map (·.2.totalCount)).getD 0

/-- The window of the page applied last; before the first one, a page of the usual size
at the start. -/
def window (d : Display) (settings : GridSettings) : GridWindow :=
  (d.applied.map (windowOf ·.1.request)).getD ⟨0, settings.pageSize⟩

/-- Whether a grid has the records and the window of the page applied last. -/
structure Shows (settings : GridSettings) (d : Display) : Prop where
  items : d.grid.items = d.items
  totalCount : d.grid.totalCount = d.totalCount
  window : d.grid.window = d.window settings

/-- The same of the window that a failure goes back to. -/
structure Kept (settings : GridSettings) (d : Display) : Prop
    extends Transcript.Numbered d.toTranscript where
  items : d.grid.items = d.items
  totalCount : d.grid.totalCount = d.totalCount
  shown : d.grid.shown = d.window settings

def Responds (d : Display) (operation : Operation) : Prop := d.toTranscript.Responds operation

/-- Responses answer requests that were issued, and the metadata do not fail. -/
def Undisturbed (d : Display) (operation : Operation) : Prop :=
  d.Responds operation ∧ ∀ error, operation ≠ .failMetadata error

end Display

open Display

variable {settings : GridSettings} {d : Display} {t : Transcript} {grid prepared after : Grid}
  {operation : Operation} {outcome : Outcome} {pending : PendingRequest} {debounce : Nat}

theorem Prepares.shown_eq (prepares : Prepares grid operation prepared debounce) :
    prepared.items = grid.items ∧ prepared.totalCount = grid.totalCount ∧
      prepared.shown = grid.shown := by
  rw [prepares.frame]
  exact ⟨rfl, rfl, rfl⟩

theorem Transcript.Awaits.find? (awaits : t.Awaits pending) :
    t.issued.find? (·.seq == t.grid.seq) = some pending := by
  obtain ⟨rest, issued⟩ := List.head?_eq_some_iff.mp awaits.1
  rw [issued]
  exact List.find?_cons_of_pos (by simpa using awaits.2)

theorem kept_start (settings : GridSettings) : Kept settings (start settings) where
  toNumbered := Transcript.numbered_start settings
  items := rfl
  totalCount := rfl
  shown := rfl

theorem Display.Kept.record (kept : Kept settings d) (responds : d.Responds operation)
    (performs : Performs d.grid operation outcome after) :
    Kept settings (d.record operation outcome after) := by
  have numbered := kept.toNumbered.record performs
  cases performs with
  | issued prepares built | refused prepares built =>
      obtain ⟨items, totalCount, shown⟩ := prepares.shown_eq
      exact ⟨numbered, items.trans kept.items, totalCount.trans kept.totalCount,
        shown.trans kept.shown⟩
  | @applied page =>
      -- Only the latest request can have the grid's number, so it is the one found.
      obtain ⟨pending, awaits, last⟩ := kept.awaits_of_responds responds
      have applied : (d.record (.apply d.grid.seq (.ok page)) (.answered (.applied d.grid.seq))
          (d.grid.applyPage page)).applied = some (pending, page) := by
        simp [Display.record, Transcript.applies?, awaits.find?]
      refine ⟨numbered, ?_, ?_, ?_⟩
      · rw [Display.items, applied]
        rfl
      · rw [Display.totalCount, applied]
        rfl
      · rw [Display.window, applied]
        simp [Display.record, Transcript.record, applyPage, last, windowOf]
  | _ => exact ⟨numbered, kept.items, kept.totalCount, kept.shown⟩

/-- Whatever ends the loading takes the window to that of the items. -/
theorem Performs.window_eq_shown (performs : Performs grid operation outcome after)
    (known : ∀ error, operation ≠ .failMetadata error)
    (settled : grid.status ≠ .loading → grid.window = grid.shown)
    (ended : after.status ≠ .loading) : after.window = after.shown := by
  cases performs with
  | issued | resent => exact absurd rfl ended
  | refused | applied | failed => rfl
  | sameInputs | sameDashboard | keptDashboard | columns | discarded => exact settled ended
  | metadata => exact absurd rfl (known _)

theorem Performs.refused_frame {error : ValidationError}
    (performs : Performs grid operation (.asked (.refused error)) after) :
    after.items = grid.items ∧ after.totalCount = grid.totalCount ∧ after.status = .error ∧
      after.error = some error.message ∧ after.seq = grid.seq + 1 := by
  cases performs with
  | refused prepares built =>
      obtain ⟨items, totalCount, -⟩ := prepares.shown_eq
      exact ⟨items, totalCount, rfl, rfl, congrArg (· + 1) prepares.seq_eq⟩

theorem Display.seq_le_play (d : Display) (later : List Operation) :
    d.grid.seq ≤ (Run.play Display.after d later).grid.seq :=
  Run.play_keeps (fun reached : Display => d.grid.seq ≤ reached.grid.seq)
    (fun reached operation above _ =>
      Nat.le_trans above (perform_performs reached.grid operation).seq_le)
    (Nat.le_refl _) Run.obeys_unruled

/-- While it is not loading, a grid has the records and the window of the page that was
applied last.  A refused operation leaves the records alone, says why, and takes the
next number; whatever happens then, no response to an earlier request is of any effect. -/
theorem shown_page_kept (settings : GridSettings) (operations : List Operation)
    (follows : Run.Obeys Display.after Undisturbed (start settings) operations) :
    let d := ofRun settings operations
    (d.grid.status ≠ .loading → d.Shows settings) ∧
    ∀ operation error, (d.grid.perform operation).1 = .asked (.refused error) →
      let refused := d.after operation
      refused.grid.items = d.grid.items ∧ refused.grid.totalCount = d.grid.totalCount ∧
      refused.grid.status = .error ∧ refused.grid.error = some error.message ∧
      refused.grid.seq = d.grid.seq + 1 ∧
      ∀ later, ∀ pending ∈ d.issued, ∀ response,
        let reached := Run.play Display.after refused later
        reached.grid.apply pending.seq response = (.discarded pending.seq, reached.grid) := by
  intro d
  have ⟨kept, settled⟩ : Kept settings d ∧
      (d.grid.status ≠ .loading → d.grid.window = d.grid.shown) := by
    refine Run.play_keeps (fun d : Display => Kept settings d ∧
        (d.grid.status ≠ .loading → d.grid.window = d.grid.shown)) ?_
      ⟨kept_start settings, fun _ => rfl⟩ follows
    intro d operation before follows
    obtain ⟨kept, settled⟩ := before
    obtain ⟨responds, known⟩ := follows
    have performs := perform_performs d.grid operation
    exact ⟨kept.record responds performs, performs.window_eq_shown known settled⟩
  refine ⟨?_, ?_⟩
  · intro ended
    exact ⟨kept.items, kept.totalCount, (settled ended).trans kept.shown⟩
  · intro operation error refusal refused
    have performs := perform_performs d.grid operation
    rw [refusal] at performs
    obtain ⟨items, totalCount, status, reason, number⟩ := performs.refused_frame
    refine ⟨items, totalCount, status, reason, number, ?_⟩
    intro later pending member response reached
    have issued := kept.bounded pending member
    have above : refused.grid.seq ≤ reached.grid.seq := seq_le_play refused later
    have taken : refused.grid.seq = d.grid.seq + 1 := number
    have stale : pending.seq ≠ reached.grid.seq := by omega
    simp [Grid.apply, stale]

/-- The first page is shown, and the next one fails. -/
def failedPage : List Operation :=
  [.setInputs { dataSourceId := "incidents" }, .apply 1 (.ok ⟨[.null], 30⟩), .setPage 10 20,
    .apply 2 (.error (.timeout 15))]

theorem failedPage_shown :
    let d := ofRun {} failedPage
    Run.Obeys Display.after Undisturbed (start {}) failedPage ∧ d.grid.status ≠ .loading ∧
      d.Shows {} ∧ d.window {} = ⟨0, 10⟩ ∧
      (d.grid.perform (.setPage 20 0)).1 = .asked (.refused .invalidPageSize) ∧
      (d.after (.setPage 20 0)).grid.totalCount = 30 ∧
      ∃ pending ∈ d.issued, pending.request.skip = 10 ∧
        (d.after (.setPage 20 0)).grid.apply pending.seq (.ok {}) =
          (.discarded pending.seq, (d.after (.setPage 20 0)).grid) := by
  intro d
  have follows : Run.Obeys Display.after Undisturbed (start {}) failedPage :=
    ⟨⟨trivial, nofun⟩, ⟨⟨_, .head _, rfl⟩, nofun⟩, ⟨trivial, nofun⟩, ⟨⟨_, .head _, rfl⟩, nofun⟩,
      trivial⟩
  obtain ⟨shows, refusals⟩ := shown_page_kept {} failedPage follows
  have ended : d.grid.status ≠ .loading := by decide
  obtain ⟨-, totalCount, -, -, -, discards⟩ := refusals (.setPage 20 0) .invalidPageSize rfl
  refine ⟨follows, ended, shows ended, rfl, rfl, totalCount, _, .head _, rfl, ?_⟩
  exact discards [] _ (.head _) (.ok {})

end Aggregation.Grid
