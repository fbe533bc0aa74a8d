import Mathlib.Data.List.Induction
import Aggregation.Proofs.Grid.MetadataFailure

namespace Aggregation.Grid

/-! What a retry sends.

A failed request is remembered from the response that failed it until another request is
issued or refused, whatever else happens in between.  A retry sends it again in its own
window, which the failure has taken the grid out of; with nothing remembered it loads.
-/

/-- No request is asked for. -/
def Transcript.Silent (t : Transcript) (operation : Operation) : Prop :=
  ¬ (t.grid.perform operation).1.Asks

/-- Whether a request was the latest one, issued and not overtaken by a refused one, when
a failure answered it, and none has been issued or refused since then. -/
def FailedLast (settings : GridSettings) (operations : List Operation)
    (pending : PendingRequest) : Prop :=
  ∃ before failure between, operations = before ++ .apply pending.seq (.error failure) :: between ∧
    (Transcript.ofRun settings before).Awaits pending ∧
    Run.Obeys Transcript.after Transcript.Silent
      ((Transcript.ofRun settings before).after (.apply pending.seq (.error failure))) between

open Transcript

variable {settings : GridSettings} {operations : List Operation} {t : Transcript}
  {grid after : Grid} {operation : Operation} {outcome : Outcome} {pending : PendingRequest}
  {request : AggregationRequest}

theorem ofRun_append (settings : GridSettings) (earlier later : List Operation) :
    ofRun settings (earlier ++ later) = Run.play Transcript.after (ofRun settings earlier) later :=
  Run.play_append earlier later

theorem silent_apply (t : Transcript) (seq : Nat)
    (response : Except NetworkError AggregationPage) : t.Silent (.apply seq response) := id

/-- Asking for a request forgets the failed one, the failure of the latest one remembers
it, and nothing else matters. -/
theorem Performs.failedRequest_cases (performs : Performs grid operation outcome after) :
    (outcome.Asks ∧ after.failedRequest = none) ∨
    (∃ failure, operation = .apply grid.seq (.error failure) ∧
      after.failedRequest = grid.lastRequest) ∨
    ((∀ failure, operation ≠ .apply grid.seq (.error failure)) ∧ ¬ outcome.Asks ∧
      after.failedRequest = grid.failedRequest) := by
  cases performs with
  | issued | refused | resent => exact .inl ⟨trivial, rfl⟩
  | @failed failure => exact .inr (.inl ⟨failure, rfl, rfl⟩)
  | discarded stale =>
      refine .inr (.inr ⟨fun failure same => ?_, id, rfl⟩)
      cases same
      exact stale rfl
  | _ => exact .inr (.inr ⟨nofun, id, rfl⟩)

theorem Outcome.pending?_of_not_asks (silent : ¬ outcome.Asks) : outcome.pending? = none :=
  match outcome, silent with
  | .asked (.issued _), silent => absurd trivial silent
  | .asked (.refused _), _ => rfl
  | .asked .nothing, _ => rfl
  | .answered _, _ => rfl
  | .done, _ => rfl

theorem Transcript.Awaits.after_of_silent (awaits : t.Awaits pending)
    (silent : t.Silent operation) : (t.after operation).Awaits pending := by
  have performs := perform_performs t.grid operation
  have issued : (t.after operation).issued = t.issued := by
    simp [Transcript.after, Transcript.record, Outcome.pending?_of_not_asks silent]
  refine ⟨?_, awaits.2.trans (performs.seq_eq_of_not_asks silent).symm⟩
  rw [issued]
  exact awaits.1

theorem Transcript.Awaits.play_of_silent (awaits : t.Awaits pending)
    (silent : Run.Obeys Transcript.after Silent t operations) :
    (Run.play Transcript.after t operations).Awaits pending :=
  Run.play_keeps (fun t : Transcript => t.Awaits pending)
    (fun _ _ awaits silent => awaits.after_of_silent silent) awaits silent

theorem Transcript.Awaits.unique (awaits : t.Awaits pending) {other : PendingRequest}
    (also : t.Awaits other) : pending = other :=
  Option.some.inj (awaits.1.symm.trans also.1)

theorem not_failedLast_nil (settings : GridSettings) (pending : PendingRequest) :
    ¬ FailedLast settings [] pending := by
  rintro ⟨before, failure, between, split, -⟩
  exact List.append_ne_nil_of_right_ne_nil before (List.cons_ne_nil _ between) split.symm

/-- Either the last operation of a run failed the request, or it asked for none. -/
theorem failedLast_concat_iff :
    FailedLast settings (operations ++ [operation]) pending ↔
      (∃ failure, operation = .apply pending.seq (.error failure)) ∧
          (ofRun settings operations).Awaits pending ∨
        FailedLast settings operations pending ∧
          (ofRun settings operations).Silent operation := by
  constructor
  · rintro ⟨before, failure, between, split, awaits, silent⟩
    cases between using List.reverseRecOn with
    | nil =>
        obtain ⟨rfl, last⟩ := List.append_inj' split rfl
        exact .inl ⟨⟨failure, List.singleton_inj.mp last⟩, awaits⟩
    | append_singleton between last ih =>
        rw [← List.cons_append, ← List.append_assoc] at split
        obtain ⟨rfl, same⟩ := List.append_inj' split rfl
        obtain rfl := List.singleton_inj.mp same
        obtain ⟨earlier, latest, -⟩ := Run.obeys_append_iff.mp silent
        rw [ofRun_append]
        exact .inr ⟨⟨before, failure, between, rfl, awaits, earlier⟩, latest⟩
  · rintro (⟨⟨failure, rfl⟩, awaits⟩ | ⟨⟨before, failure, between, rfl, awaits, silent⟩, latest⟩)
    · exact ⟨operations, failure, [], rfl, awaits, trivial⟩
    · refine ⟨before, failure, between ++ [operation], by simp, awaits, ?_⟩
      rw [ofRun_append] at latest
      exact Run.obeys_append_iff.mpr ⟨silent, latest, trivial⟩

theorem FailedLast.awaits (failed : FailedLast settings operations pending) :
    (ofRun settings operations).Awaits pending := by
  induction operations using List.reverseRecOn with
  | nil => exact absurd failed (not_failedLast_nil settings pending)
  | append_singleton operations operation ih =>
      rw [ofRun_append]
      rcases failedLast_concat_iff.mp failed with ⟨⟨failure, rfl⟩, awaits⟩ | ⟨earlier, silent⟩
      · exact awaits.after_of_silent (silent_apply _ _ _)
      · exact (ih earlier).after_of_silent silent

/-- The request that a grid remembers is the one that failed last. -/
theorem failedRequest_eq_some_iff
    (responds : Run.Obeys Transcript.after Responds (start settings) operations) :
    (ofRun settings operations).grid.failedRequest = some request ↔
      ∃ pending, FailedLast settings operations pending ∧ pending.request = request := by
  induction operations using List.reverseRecOn with
  | nil =>
      constructor
      · intro remembered
        contradiction
      · rintro ⟨pending, failed, -⟩
        exact absurd failed (not_failedLast_nil settings pending)
  | append_singleton operations operation ih =>
      obtain ⟨before, here, -⟩ := Run.obeys_append_iff.mp responds
      let t := ofRun settings operations
      have numbered : Numbered t := (coherent_ofRun before).toNumbered
      have after : ofRun settings (operations ++ [operation]) = t.after operation :=
        ofRun_append settings operations [operation]
      simp only [failedLast_concat_iff, after]
      change (t.grid.perform operation).2.failedRequest = some request ↔ _
      rcases (perform_performs t.grid operation).failedRequest_cases with
        ⟨asks, forgotten⟩ | ⟨failure, rfl, remembered⟩ | ⟨other, silent, kept⟩
      · rw [forgotten]
        constructor
        · intro remembered
          contradiction
        · rintro ⟨pending, ⟨⟨failure, rfl⟩, -⟩ | ⟨-, silent⟩, -⟩
          · exact absurd asks (silent_apply _ _ _)
          · exact absurd asks silent
      · obtain ⟨latest, awaits, last⟩ := numbered.awaits_of_responds here
        rw [remembered, last, Option.some.injEq]
        constructor
        · intro same
          exact ⟨latest, .inl ⟨⟨failure, by rw [awaits.2]⟩, awaits⟩, same⟩
        · rintro ⟨pending, ⟨-, also⟩ | ⟨earlier, -⟩, rfl⟩
          · rw [awaits.unique also]
          · rw [awaits.unique earlier.awaits]
      · rw [kept, ih before]
        refine exists_congr fun pending => and_congr_left fun _ => ?_
        constructor
        · intro earlier
          exact .inr ⟨earlier, silent⟩
        · rintro (⟨⟨failure, rfl⟩, awaits⟩ | ⟨earlier, -⟩)
          · exact absurd (by rw [awaits.2]) (other failure)
          · exact earlier

theorem retry_of_failedRequest (remembered : grid.failedRequest = some request) :
    ∃ resent, grid.retry = (.issued ⟨grid.seq + 1, request, 0⟩, resent) ∧
      resent.window = ⟨request.skip, request.first⟩ ∧ resent.seq = grid.seq + 1 := by
  refine ⟨({ grid with window := ⟨request.skip, request.first⟩ }.track request 0).2, ?_, rfl, rfl⟩
  rw [retry, remembered]
  rfl

theorem awaits_after_retry (remembered : t.grid.failedRequest = some request) :
    (t.after .retry).Awaits ⟨t.grid.seq + 1, request, 0⟩ := by
  obtain ⟨resent, retried, -, seq⟩ := retry_of_failedRequest remembered
  have performed : t.grid.perform .retry =
      (.asked (.issued ⟨t.grid.seq + 1, request, 0⟩), resent) := by
    rw [perform, retried]
    rfl
  rw [Transcript.after, performed]
  exact ⟨rfl, seq.symm⟩

/-- A retried request that fails too is the one that failed last. -/
theorem failedLast_after_retry {rest : List Operation} {failure : NetworkError}
    (remembered : (ofRun settings operations).grid.failedRequest = some request)
    (silent : Run.Obeys Transcript.after Silent ((ofRun settings operations).after .retry) rest)
    (answered : .apply ((ofRun settings operations).grid.seq + 1) (.error failure) ∈ rest) :
    FailedLast settings (operations ++ .retry :: rest)
      ⟨(ofRun settings operations).grid.seq + 1, request, 0⟩ := by
  obtain ⟨waiting, between, rfl⟩ := List.append_of_mem answered
  obtain ⟨before, -, since⟩ := Run.obeys_append_iff.mp silent
  refine ⟨operations ++ .retry :: waiting, failure, between, by simp, ?_, ?_⟩
  · rw [ofRun_append]
    exact (awaits_after_retry remembered).play_of_silent before
  · rw [ofRun_append]
    exact since

/-- If the latest request failed, and none has been issued or refused since then, a retry
sends it again as it was, at once and under the next number, in its own window; and if it
fails once more, so does the next retry.  In every other state a retry is a load.  This
holds even if responses come more than once. -/
theorem failed_request_resent (settings : GridSettings) (operations : List Operation)
    (responds : Run.Obeys Transcript.after Responds (start settings) operations) :
    let t := ofRun settings operations
    (∀ pending, FailedLast settings operations pending →
      (∃ resent, t.grid.retry = (.issued ⟨t.grid.seq + 1, pending.request, 0⟩, resent) ∧
        resent.window = ⟨pending.request.skip, pending.request.first⟩) ∧
      ∀ rest failure, Run.Obeys Transcript.after Responds (t.after .retry) rest →
        Run.Obeys Transcript.after Silent (t.after .retry) rest →
        .apply (t.grid.seq + 1) (.error failure) ∈ rest →
        ∃ again, (Run.play Transcript.after (t.after .retry) rest).grid.retry =
            (.issued ⟨t.grid.seq + 2, pending.request, 0⟩, again) ∧
          again.window = ⟨pending.request.skip, pending.request.first⟩) ∧
    ((∀ pending, ¬ FailedLast settings operations pending) → t.grid.retry = t.grid.load) := by
  intro t
  refine ⟨fun pending failed => ?_, fun unfailed => ?_⟩
  · have remembered := (failedRequest_eq_some_iff responds).mpr ⟨pending, failed, rfl⟩
    refine ⟨?_, fun rest failure answers silent answered => ?_⟩
    · obtain ⟨resent, retried, window, -⟩ := retry_of_failedRequest remembered
      exact ⟨resent, retried, window⟩
    · have whole : ofRun settings (operations ++ .retry :: rest) =
          Run.play Transcript.after (t.after .retry) rest := ofRun_append _ _ _
      have twice := failedLast_after_retry remembered silent answered
      have number := twice.awaits.2
      have follows : Run.Obeys Transcript.after Responds (start settings)
          (operations ++ .retry :: rest) :=
        Run.obeys_append_iff.mpr ⟨responds, ⟨trivial, answers⟩⟩
      obtain ⟨again, retried, window, -⟩ :=
        retry_of_failedRequest ((failedRequest_eq_some_iff follows).mpr ⟨_, twice, rfl⟩)
      rw [← number, whole] at retried
      exact ⟨again, retried, window⟩
  · have forgotten : t.grid.failedRequest = none := by
      refine Option.eq_none_iff_forall_ne_some.mpr fun request remembered => ?_
      obtain ⟨pending, failed, -⟩ := (failedRequest_eq_some_iff responds).mp remembered
      exact unfailed pending failed
    rw [retry, forgotten]

/-- After the second page has failed, a late response, columns, the same inputs again and
the metadata change nothing. -/
def failedPageLeft : List Operation :=
  failedPage ++ [.apply 1 (.error (.timeout 10)), .setColumns [],
    .setInputs { dataSourceId := "incidents" }, .failMetadata unknownIncidents]

theorem failedPageLeft_responds :
    Run.Obeys Transcript.after Responds (start {}) failedPageLeft :=
  ⟨trivial, ⟨_, .head _, rfl⟩, trivial, ⟨_, .head _, rfl⟩, ⟨_, .tail _ (.head _), rfl⟩, trivial,
    trivial, trivial, trivial⟩

theorem failedPageLeft_retried_twice :
    let t := ofRun {} failedPageLeft
    let rest : List Operation := [.setColumns [], .apply 3 (.error (.timeout 15))]
    t.grid.window = ⟨0, 10⟩ ∧
      ∃ pending ∈ t.issued, pending.seq = 2 ∧ FailedLast {} failedPageLeft pending ∧
        (∃ resent, t.grid.retry = (.issued ⟨3, pending.request, 0⟩, resent) ∧
          resent.window = ⟨10, 20⟩) ∧
        Run.Obeys Transcript.after Responds (t.after .retry) rest ∧
        Run.Obeys Transcript.after Silent (t.after .retry) rest ∧
        ∃ again, (Run.play Transcript.after (t.after .retry) rest).grid.retry =
            (.issued ⟨4, pending.request, 0⟩, again) ∧ again.window = ⟨10, 20⟩ := by
  intro t rest
  have failed : FailedLast {} failedPageLeft (t.issued.head (by decide)) :=
    ⟨failedPage.take 3, .timeout 15, failedPageLeft.drop 4, rfl, ⟨rfl, rfl⟩,
      id, id, id, id, trivial⟩
  obtain ⟨resends, -⟩ := failed_request_resent {} failedPageLeft failedPageLeft_responds
  obtain ⟨once, twice⟩ := resends _ failed
  have answers : Run.Obeys Transcript.after Responds (t.after .retry) rest :=
    ⟨trivial, ⟨_, .head _, rfl⟩, trivial⟩
  have silent : Run.Obeys Transcript.after Silent (t.after .retry) rest := ⟨id, id, trivial⟩
  exact ⟨rfl, _, .head _, rfl, failed, once, answers, silent,
    twice rest (.timeout 15) answers silent (.tail _ (.head _))⟩

end Aggregation.Grid
