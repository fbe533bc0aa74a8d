import Aggregation.Proofs.Grid.Operation
import Aggregation.Proofs.Run

namespace Aggregation.Grid

/-! A grid together with what its caller has seen of it.

The caller keeps the requests that were issued and the responses that were handed
in.  `Transcript.Responds` is the one rule on callers: a response answers some
request that was issued, but at any time and any number of times.
-/

structure Transcript where
  grid : Grid
  /-- The requests issued, the latest first. -/
  issued : List PendingRequest := []
  /-- The responses handed in, the latest first. -/
  answers : List (Nat × Except NetworkError AggregationPage) := []
  /-- The pipeline of the inputs that were there when the columns were last set. -/
  columnsFor : Option (List Stage) := none

def Operation.answer? : Operation → Option (Nat × Except NetworkError AggregationPage)
  | .apply seq response => some (seq, response)
  | _ => none

namespace Transcript

/-- A new grid, of which nothing has been seen. -/
def start (settings : GridSettings) : Transcript := { grid := .new settings }

/-- Adds an operation, what came of it, and the grid that it left. -/
def record (t : Transcript) (operation : Operation) (outcome : Outcome) (after : Grid) :
    Transcript where
  grid := after
  issued := outcome.pending?.toList ++ t.issued
  answers := operation.answer?.toList ++ t.answers
  columnsFor := match operation with
    | .setColumns _ => t.grid.inputs.map (·.aggregation.pipeline)
    | _ => t.columnsFor

def after (t : Transcript) (operation : Operation) : Transcript :=
  t.record operation (t.grid.perform operation).1 (t.grid.perform operation).2

def ofRun (settings : GridSettings) (operations : List Operation) : Transcript :=
  Run.play after (start settings) operations

/-- Responses answer requests that were issued earlier. -/
def Responds (t : Transcript) : Operation → Prop
  | .apply seq _ => ∃ pending ∈ t.issued, pending.seq = seq
  | _ => True

/-- The request whose response the grid would apply: the latest one issued, unless
a refused one has taken its place. -/
def Awaits (t : Transcript) (pending : PendingRequest) : Prop :=
  t.issued.head? = some pending ∧ pending.seq = t.grid.seq

/-- Requests are numbered upwards, and the grid remembers the latest. -/
structure Numbered (t : Transcript) : Prop where
  bounded : ∀ pending ∈ t.issued, pending.seq ≤ t.grid.seq
  decreasing : t.issued.Pairwise fun later earlier => earlier.seq < later.seq
  last : t.grid.lastRequest = t.issued.head?.map (·.request)

variable {t : Transcript} {operation : Operation} {outcome : Outcome} {after : Grid}

theorem numbered_start (settings : GridSettings) : Numbered (start settings) where
  bounded _ member := nomatch member
  decreasing := .nil
  last := rfl

/-- A request under the next number keeps the numbering. -/
theorem Numbered.issue (numbered : Numbered t) {latest : PendingRequest}
    (number : latest.seq = t.grid.seq + 1) (seq : after.seq = t.grid.seq + 1)
    (last : after.lastRequest = some latest.request) :
    Numbered (t.record operation (.asked (.issued latest)) after) where
  bounded pending member := by
    change pending.seq ≤ after.seq
    rcases List.mem_cons.mp member with rfl | earlier
    · omega
    · have bound := numbered.bounded pending earlier
      omega
  decreasing := by
    refine List.pairwise_cons.mpr ⟨?_, numbered.decreasing⟩
    intro pending earlier
    have bound := numbered.bounded pending earlier
    omega
  last := last

/-- So does whatever issues nothing and gives no number back. -/
theorem Numbered.keep (numbered : Numbered t) (nothing : outcome.pending? = none)
    (upwards : t.grid.seq ≤ after.seq) (last : after.lastRequest = t.grid.lastRequest) :
    Numbered (t.record operation outcome after) := by
  have issued : (t.record operation outcome after).issued = t.issued := by
    simp [Transcript.record, nothing]
  refine ⟨?_, issued ▸ numbered.decreasing, ?_⟩
  · intro pending member
    rw [issued] at member
    exact Nat.le_trans (numbered.bounded pending member) upwards
  · rw [issued, ← numbered.last]
    exact last

theorem Numbered.record (numbered : Numbered t)
    (performs : Performs t.grid operation outcome after) :
    Numbered (t.record operation outcome after) :=
  match outcome, performs.numbers with
  | .asked (.issued _), ⟨number, seq, last, _⟩ => numbered.issue number seq last
  | .asked (.refused _), ⟨seq, last, _⟩ => numbered.keep rfl (by omega) last
  | .asked .nothing, ⟨seq, last, _⟩ => numbered.keep rfl (by omega) last
  | .answered _, ⟨seq, last⟩ => numbered.keep rfl (by omega) last
  | .done, ⟨seq, last⟩ => numbered.keep rfl (by omega) last

/-- Only the latest request can carry the grid's own number. -/
theorem Numbered.awaits_of_mem (numbered : Numbered t) {pending : PendingRequest}
    (member : pending ∈ t.issued) (current : pending.seq = t.grid.seq) : t.Awaits pending := by
  refine ⟨?_, current⟩
  cases issued : t.issued with
  | nil => simp [issued] at member
  | cons latest earlier =>
      rw [issued] at member
      rcases List.mem_cons.mp member with rfl | older
      · rfl
      · have decreasing := numbered.decreasing
        rw [issued] at decreasing
        have below := (List.pairwise_cons.mp decreasing).1 pending older
        have bound := numbered.bounded latest (by simp [issued])
        omega

/-- A response under the grid's own number answers the latest request, which the grid
remembers. -/
theorem Numbered.awaits_of_responds (numbered : Numbered t)
    {response : Except NetworkError AggregationPage}
    (responds : t.Responds (.apply t.grid.seq response)) :
    ∃ pending, t.Awaits pending ∧ t.grid.lastRequest = some pending.request := by
  obtain ⟨pending, member, current⟩ := responds
  have awaits := numbered.awaits_of_mem member current
  refine ⟨pending, awaits, ?_⟩
  rw [numbered.last, awaits.1, Option.map_some]

end Transcript

end Aggregation.Grid
