import Aggregation.Proofs.Session.Step

namespace Aggregation

/-! There is one fetch at a time.

A session has no task or one, which is on record under the number that its grid
waits for.  So whatever is joined is applied: the check of numbers in the grid never
turns a response of a session's own task away.
-/

/-- A response under the grid's own number is applied, and the grid is loading no
longer. -/
theorem Grid.apply_own_seq (grid : Grid) (response : Except NetworkError AggregationPage) :
    (grid.apply grid.seq response).1.seq = grid.seq ∧
      (grid.apply grid.seq response).1.isDiscarded = false ∧
      (grid.apply grid.seq response).2.seq = grid.seq ∧
      (grid.apply grid.seq response).2.status ≠ .loading := by
  cases response with
  | ok page => simp [Grid.apply, GridEvent.seq, GridEvent.isDiscarded, Grid.applyPage]
  | error failure => simp [Grid.apply, GridEvent.seq, GridEvent.isDiscarded, Grid.applyFailure]

namespace Session

structure IsIdle (session : Session) : Prop where
  tasks : session.tasks = []
  seqs : session.seqs = []

/-- Whether a session has one task, on record under the number that its grid waits
for, which fetches the grid's latest request. -/
structure Carries (session : Session) (task : FetchTask) : Prop where
  tasks : session.tasks = [task]
  seqs : session.seqs = [(task.id, task.pending.seq)]
  started : task.id < session.nextTask
  seq : task.pending.seq = session.grid.seq
  request : session.grid.lastRequest = some task.pending.request

variable {session : Session} {task : FetchTask} {pending : PendingRequest} {grid : Grid}
  {outcome : FetchOutcome} {log : Log}

/-- Dispatching leaves the new task alone in the session. -/
theorem dispatch_eq (session : Session) (pending : PendingRequest)
    (tidy : session.tasks = [] → session.seqs = []) :
    session.dispatch pending =
      { session with
        tasks := [⟨session.nextTask, pending, none⟩]
        seqs := [(session.nextTask, pending.seq)]
        nextTask := session.nextTask + 1 } := by
  cases tasks : session.tasks with
  | nil => simp [dispatch, tasks, tidy tasks]
  | cons task rest => simp [dispatch, tasks, cancelPending]

theorem Carries.tidy (carries : Carries session task) :
    session.tasks = [] → session.seqs = [] := by
  intro empty
  rw [carries.tasks] at empty
  contradiction

theorem IsIdle.nextEvent (idle : IsIdle session) : session.nextEvent = (none, session) := by
  simp [Session.nextEvent, idle.tasks, joinFirst]

theorem Carries.nextEvent_running (carries : Carries session task)
    (running : task.outcome = none) : session.nextEvent = (none, session) := by
  simp [Session.nextEvent, carries.tasks, running, joinFirst]

/-- The session after its one task was joined. -/
def joined (session : Session) (outcome : FetchOutcome) : Session where
  grid := (session.grid.apply session.grid.seq outcome.response).2
  tasks := []
  seqs := []
  nextTask := session.nextTask

theorem Carries.join (carries : Carries session task) (finished : task.outcome = some outcome) :
    session.join task =
      (some (session.grid.apply session.grid.seq outcome.response).1, session.joined outcome) := by
  have forgotten : session.forget task.id = { session with tasks := [], seqs := [] } := by
    simp [forget, carries.tasks, carries.seqs]
  cases outcome with
  | answered response =>
      simp [Session.join, finished, forgotten, applyTo, carries.seq, FetchOutcome.response, joined]
  | crashed message =>
      -- A task that broke down is known by the record only.
      have recorded : session.seqs.lookup task.id = some session.grid.seq := by
        simp [carries.seqs, carries.seq]
      simp [Session.join, finished, forgotten, applyTo, recorded, FetchOutcome.response, joined]

theorem Carries.nextEvent_finished (carries : Carries session task)
    (finished : task.outcome = some outcome) :
    session.nextEvent =
      (some (session.grid.apply session.grid.seq outcome.response).1, session.joined outcome) := by
  have first : session.nextEvent = session.joinFirst [task] := by
    simp [Session.nextEvent, carries.tasks, finished]
  rw [first, joinFirst, carries.join finished]

/-- Settling lets the one task end, and joins it. -/
theorem Carries.settle (carries : Carries session task)
    (respond : AggregationRequest → FetchOutcome) :
    ∃ outcome, session.settle respond =
      ([(session.grid.apply session.grid.seq outcome.response).1], session.joined outcome) := by
  let ended : FetchTask :=
    { task with outcome := some (task.outcome.getD (respond task.pending.request)) }
  have carried : Carries { session with tasks := [ended] } ended :=
    ⟨rfl, carries.seqs, carries.started, carries.seq, carries.request⟩
  have settled : session.settle respond = { session with tasks := [ended] }.drain 1 := by
    simp [Session.settle, carries.tasks, ended]
  refine ⟨task.outcome.getD (respond task.pending.request), ?_⟩
  rw [settled, drain, carried.nextEvent_finished rfl]
  rfl

theorem IsIdle.settle (idle : IsIdle session) (respond : AggregationRequest → FetchOutcome) :
    session.settle respond = ([], session) := by
  have same : { session with tasks := [] } = session := by
    rw [← idle.tasks]
  simp [Session.settle, drain, idle.tasks, same]

namespace Log

/-- A session with its log: the task, if there is one, is for the request dispatched
last, requests are numbered upwards, and each event is about one of them that no
earlier event was about. -/
structure Sound (log : Log) : Prop where
  single : log.session.IsIdle ∨ ∃ task, log.session.Carries task ∧
    log.dispatched.head? = some task.pending ∧ ∀ event ∈ log.events, event.seq < task.pending.seq
  bounded : ∀ pending ∈ log.dispatched, pending.seq ≤ log.session.grid.seq
  upwards : log.dispatched.Pairwise fun later earlier => earlier.seq < later.seq
  reported : ∀ event ∈ log.events, event.isDiscarded = false ∧
    ∃ pending ∈ log.dispatched, pending.seq = event.seq
  once : log.events.Pairwise fun later earlier => earlier.seq < later.seq

theorem sound_start (settings : GridSettings) : Sound (start settings) where
  single := .inl ⟨rfl, rfl⟩
  bounded _ member := nomatch member
  upwards := .nil
  reported _ member := nomatch member
  once := .nil

theorem Sound.event_bounded (sound : Sound log) :
    ∀ event ∈ log.events, event.seq ≤ log.session.grid.seq := by
  intro event member
  obtain ⟨-, pending, dispatched, same⟩ := sound.reported event member
  rw [← same]
  exact sound.bounded pending dispatched

theorem Sound.tidy (sound : Sound log) : log.session.tasks = [] → log.session.seqs = [] := by
  rcases sound.single with idle | ⟨task, carries, -⟩
  · exact fun _ => idle.seqs
  · exact carries.tidy

theorem Sound.dispatch (sound : Sound log) (number : pending.seq = log.session.grid.seq + 1)
    (seq : grid.seq = log.session.grid.seq + 1)
    (last : grid.lastRequest = some pending.request) :
    Sound {
      session := { log.session with grid }.dispatch pending
      dispatched := pending :: log.dispatched
      events := log.events } := by
  rw [dispatch_eq { log.session with grid } pending sound.tidy]
  have below : ∀ earlier ∈ log.dispatched, earlier.seq < pending.seq := by
    intro earlier member
    have bound := sound.bounded earlier member
    omega
  refine ⟨.inr ⟨⟨log.session.nextTask, pending, none⟩, ?_, rfl, ?_⟩, ?_, ?_, ?_, sound.once⟩
  · exact ⟨rfl, rfl, Nat.lt_succ_self _, number.trans seq.symm, last⟩
  · intro event member
    have bound := sound.event_bounded event member
    change event.seq < pending.seq
    omega
  · intro other member
    change other.seq ≤ grid.seq
    rcases List.mem_cons.mp member with rfl | earlier
    · omega
    · have bound := below other earlier
      omega
  · exact List.pairwise_cons.mpr ⟨below, sound.upwards⟩
  · intro event member
    obtain ⟨kept, about, dispatched, same⟩ := sound.reported event member
    exact ⟨kept, about, List.mem_cons_of_mem _ dispatched, same⟩

theorem Sound.cancel (sound : Sound log) (upwards : log.session.grid.seq ≤ grid.seq) :
    Sound { log with session := { log.session with grid }.cancelPending } where
  single := .inl ⟨rfl, rfl⟩
  bounded pending member := Nat.le_trans (sound.bounded pending member) upwards
  upwards := sound.upwards
  reported := sound.reported
  once := sound.once

/-- Changes of the grid that ask for nothing leave the task alone. -/
theorem Sound.regrid (sound : Sound log) (seq : grid.seq = log.session.grid.seq)
    (last : grid.lastRequest = log.session.grid.lastRequest) :
    Sound { log with session := { log.session with grid } } := by
  refine ⟨?_, ?_, sound.upwards, sound.reported, sound.once⟩
  · rcases sound.single with idle | ⟨task, carries, current⟩
    · exact .inl ⟨idle.tasks, idle.seqs⟩
    · refine .inr ⟨task, ?_, current⟩
      exact ⟨carries.tasks, carries.seqs, carries.started, carries.seq.trans seq.symm,
        last.trans carries.request⟩
  · intro pending member
    change pending.seq ≤ grid.seq
    rw [seq]
    exact sound.bounded pending member

theorem Sound.finish (sound : Sound log) (id : Nat) (outcome : FetchOutcome) :
    Sound { log with session := log.session.finish id outcome } := by
  refine ⟨?_, sound.bounded, sound.upwards, sound.reported, sound.once⟩
  rcases sound.single with idle | ⟨task, carries, current⟩
  · exact .inl ⟨by simp [Session.finish, idle.tasks], idle.seqs⟩
  · let ended : FetchTask := if task.id = id then { task with outcome := some outcome } else task
    have same : ended.id = task.id ∧ ended.pending = task.pending := by
      by_cases own : task.id = id <;> simp [ended, own]
    refine .inr ⟨ended, ⟨?_, ?_, ?_, ?_, ?_⟩, ?_⟩
    · simp [Session.finish, carries.tasks, ended]
    · rw [same.1, same.2]
      exact carries.seqs
    · rw [same.1]
      exact carries.started
    · rw [same.2]
      exact carries.seq
    · rw [same.2]
      exact carries.request
    · rw [same.2]
      exact current

theorem Sound.joined (sound : Sound log) (carries : log.session.Carries task)
    (latest : log.dispatched.head? = some task.pending)
    (fresh : ∀ event ∈ log.events, event.seq < task.pending.seq) (outcome : FetchOutcome) :
    Sound { log with
      session := log.session.joined outcome
      events := (log.session.grid.apply log.session.grid.seq outcome.response).1 ::
        log.events } := by
  obtain ⟨number, kept, seq, -⟩ := log.session.grid.apply_own_seq outcome.response
  refine ⟨.inl ⟨rfl, rfl⟩, ?_, sound.upwards, ?_, ?_⟩
  · intro pending member
    change pending.seq ≤ (log.session.grid.apply log.session.grid.seq outcome.response).2.seq
    rw [seq]
    exact sound.bounded pending member
  · refine List.forall_mem_cons.mpr ⟨⟨kept, task.pending, ?_, ?_⟩, sound.reported⟩
    · exact List.mem_of_mem_head? latest
    · exact carries.seq.trans number.symm
  · refine List.pairwise_cons.mpr ⟨?_, sound.once⟩
    intro event member
    rw [number, ← carries.seq]
    exact fresh event member

/-- Joining hands a finished task to the grid, or changes nothing. -/
theorem Sound.nextEvent (sound : Sound log) :
    Sound { log with
      session := log.session.nextEvent.2
      events := log.session.nextEvent.1.toList ++ log.events } := by
  rcases sound.single with idle | ⟨task, carries, latest, fresh⟩
  · rw [idle.nextEvent]
    exact sound
  · cases ended : task.outcome with
    | none =>
        rw [carries.nextEvent_running ended]
        exact sound
    | some outcome =>
        rw [carries.nextEvent_finished ended]
        exact sound.joined carries latest fresh outcome

theorem Sound.settle (sound : Sound log) (respond : AggregationRequest → FetchOutcome) :
    Sound { log with
      session := (log.session.settle respond).2
      events := (log.session.settle respond).1 ++ log.events } := by
  rcases sound.single with idle | ⟨task, carries, latest, fresh⟩
  · rw [idle.settle]
    exact sound
  · obtain ⟨outcome, settled⟩ := carries.settle respond
    rw [settled]
    exact sound.joined carries latest fresh outcome

/-- Joining starts no task. -/
theorem Sound.nextEvent_tasks (sound : Sound log) :
    ∀ task ∈ log.session.nextEvent.2.tasks, task ∈ log.session.tasks := by
  intro member known
  rcases sound.single with idle | ⟨task, carries, -⟩
  · rwa [idle.nextEvent] at known
  · cases ended : task.outcome with
    | none => rwa [carries.nextEvent_running ended] at known
    | some outcome =>
        rw [carries.nextEvent_finished ended] at known
        contradiction

theorem Sound.started (sound : Sound log) :
    ∀ task ∈ log.session.tasks, task.id < log.session.nextTask := by
  intro task member
  rcases sound.single with idle | ⟨only, carries, -⟩
  · rw [idle.tasks] at member
    contradiction
  · rw [carries.tasks, List.mem_singleton] at member
    rw [member]
    exact carries.started

/-- All that a step can do.  An undisturbed one ends the waiting of the grid together
with the task. -/
inductive Moves (log : Log) : Step → Log → Prop
  | dispatched {step : Step} (pending : PendingRequest) (grid : Grid)
      (number : pending.seq = log.session.grid.seq + 1)
      (seq : grid.seq = log.session.grid.seq + 1)
      (last : grid.lastRequest = some pending.request) (loading : grid.status = .loading) :
      Moves log step {
        session := { log.session with grid }.dispatch pending
        dispatched := pending :: log.dispatched
        events := log.events }
  | cancelled {step : Step} (grid : Grid) (upwards : log.session.grid.seq ≤ grid.seq)
      (stopped : log.Undisturbed step → grid.status ≠ .loading) :
      Moves log step { log with session := { log.session with grid }.cancelPending }
  | regridded {step : Step} (grid : Grid) (seq : grid.seq = log.session.grid.seq)
      (last : grid.lastRequest = log.session.grid.lastRequest)
      (same : log.Undisturbed step → grid.status = log.session.grid.status) :
      Moves log step { log with session := { log.session with grid } }
  | finished {id : Nat} {outcome : FetchOutcome} :
      Moves log (.finish id outcome) { log with session := log.session.finish id outcome }
  | joined :
      Moves log .nextEvent { log with
        session := log.session.nextEvent.2
        events := log.session.nextEvent.1.toList ++ log.events }

end Log

/-- Loading columns touches neither the number nor the last request. -/
theorem loadColumns_frame (session : Session) (source : MetadataSource) :
    ∃ grid, (session.loadColumns source).2 = { session with grid } ∧
      grid.seq = session.grid.seq ∧ grid.lastRequest = session.grid.lastRequest ∧
      ((session.loadColumns source).1 = .ok () → grid.status = session.grid.status) := by
  cases given : session.grid.inputs with
  | none => exact ⟨session.grid, by simp [loadColumns, given], rfl, rfl, fun _ => rfl⟩
  | some inputs =>
      cases loaded : source.loadSourceFields inputs.dataSourceId inputs.aggregation.sourceFields with
      | ok fields =>
          refine ⟨session.grid.setColumns (fieldsAfter fields inputs.aggregation.pipeline), ?_,
            rfl, rfl, fun _ => rfl⟩
          simp [loadColumns, given, loaded]
      | error error =>
          refine ⟨session.grid.failMetadata error, ?_, rfl, rfl, ?_⟩ <;>
            simp [loadColumns, given, loaded]

namespace Log

theorem startedSince_eq_nil {before after : Session}
    (old : ∀ task ∈ after.tasks, task.id < before.nextTask) : startedSince before after = [] := by
  have none : after.tasks.filter (before.nextTask ≤ ·.id) = [] := by
    refine List.filter_eq_nil_iff.mpr fun task member => ?_
    have bound := old task member
    simp
    omega
  rw [startedSince, none, List.map_nil]

/-- Steps that start no task. -/
theorem after_of_old (log : Log) (step : Step)
    (old : ∀ task ∈ (log.session.perform step).2.tasks, task.id < log.session.nextTask) :
    log.after step = { log with
      session := (log.session.perform step).2
      events := (log.session.perform step).1.event?.toList ++ log.events } := by
  rw [Log.after, startedSince_eq_nil old, List.nil_append]

theorem Sound.moves_of_operation (sound : Sound log) {step : Step} {operation : Grid.Operation}
    (submits : step.operation? = some operation) : Moves log step (log.after step) := by
  obtain ⟨issue, grid, performs, performed⟩ := perform_of_operation log.session submits
  have numbers := performs.numbers
  rw [Log.after, performed]
  cases issue with
  | issued pending =>
      obtain ⟨number, seq, last, loading⟩ := numbers
      have dispatched := dispatch_eq { log.session with grid } pending sound.tidy
      have new : startedSince log.session ({ log.session with grid }.dispatch pending) =
          [pending] := by
        simp [startedSince, dispatched]
      simpa [submit, new, Report.event?] using
        Moves.dispatched pending grid number seq last loading
  | refused error =>
      obtain ⟨seq, -, stopped⟩ := numbers
      have none : startedSince log.session { log.session with grid }.cancelPending = [] := rfl
      simpa [submit, none, Report.event?] using
        Moves.cancelled grid (by omega) (by simp [stopped])
  | nothing =>
      obtain ⟨seq, last, same⟩ := numbers
      have none : startedSince log.session { log.session with grid } = [] :=
        startedSince_eq_nil sound.started
      simpa [submit, none, Report.event?] using Moves.regridded grid seq last fun _ => same

theorem Sound.moves_loadColumns (sound : Sound log) (source : MetadataSource) :
    Moves log (.loadColumns source) (log.after (.loadColumns source)) := by
  obtain ⟨grid, loaded, seq, last, same⟩ := loadColumns_frame log.session source
  have performed : (log.session.perform (.loadColumns source)).2 = { log.session with grid } :=
    loaded
  rw [after_of_old log _ (performed ▸ sound.started), performed]
  refine .regridded grid seq last ?_
  rintro ⟨session, loads⟩
  exact same (congrArg Prod.fst loads)

theorem Sound.moves (sound : Sound log) (step : Step) : Moves log step (log.after step) := by
  cases step with
  | setInputs inputs => exact sound.moves_of_operation rfl
  | setDashboard dashboard => exact sound.moves_of_operation rfl
  | load => exact sound.moves_of_operation rfl
  | setSort sort => exact sound.moves_of_operation rfl
  | setPage skip take => exact sound.moves_of_operation rfl
  | retry => exact sound.moves_of_operation rfl
  | loadColumns source => exact sound.moves_loadColumns source
  | close => exact .cancelled log.session.grid (Nat.le_refl _) False.elim
  | finish id outcome =>
      rw [after_of_old log (.finish id outcome) (sound.finish id outcome).started]
      exact .finished
  | nextEvent =>
      have old : ∀ task ∈ log.session.nextEvent.2.tasks, task.id < log.session.nextTask :=
        fun task member => sound.started task (sound.nextEvent_tasks task member)
      rw [after_of_old log .nextEvent old]
      exact .joined

theorem Sound.step {step : Step} {next : Log} (sound : Sound log) (moves : Moves log step next) :
    Sound next := by
  cases moves with
  | dispatched pending grid number seq last => exact sound.dispatch number seq last
  | cancelled grid upwards => exact sound.cancel upwards
  | regridded grid seq last => exact sound.regrid seq last
  | finished => exact sound.finish _ _
  | joined => exact sound.nextEvent

theorem sound_ofRun (settings : GridSettings) (steps : List Step) :
    Sound (ofRun settings steps) :=
  Run.play_keeps Sound (fun _ step sound _ => sound.step (sound.moves step))
    (sound_start settings) Run.obeys_unruled

/-- Whether the grid of a session waits just as long as there is a task. -/
def Live (session : Session) : Prop :=
  session.hasPending = true ↔ session.grid.status = .loading

theorem Sound.live_nextEvent (sound : Sound log) (live : Live log.session) :
    Live log.session.nextEvent.2 := by
  rcases sound.single with idle | ⟨task, carries, -⟩
  · rwa [idle.nextEvent]
  · cases ended : task.outcome with
    | none => rwa [carries.nextEvent_running ended]
    | some outcome =>
        rw [carries.nextEvent_finished ended]
        obtain ⟨-, -, -, stopped⟩ := log.session.grid.apply_own_seq outcome.response
        simpa [Live, Session.joined, hasPending] using stopped

theorem Sound.live_step {step : Step} {next : Log} (sound : Sound log) (live : Live log.session)
    (moves : Moves log step next) (undisturbed : log.Undisturbed step) : Live next.session := by
  cases moves with
  | dispatched pending grid number seq last loading =>
      rw [dispatch_eq { log.session with grid } pending sound.tidy]
      simp [Live, hasPending, loading]
  | cancelled grid upwards stopped =>
      simpa [Live, cancelPending, hasPending] using stopped undisturbed
  | regridded grid seq last same => simpa [Live, hasPending, same undisturbed] using live
  | finished => simpa [Live, Session.finish, hasPending] using live
  | joined => exact sound.live_nextEvent live

theorem live_ofRun {settings : GridSettings} {steps : List Step}
    (undisturbed : Run.Obeys Log.after Log.Undisturbed (start settings) steps) :
    Live (ofRun settings steps).session := by
  have both : Sound (ofRun settings steps) ∧ Live (ofRun settings steps).session := by
    refine Run.play_keeps (fun log => Sound log ∧ Live log.session) ?_ ?_ undisturbed
    · rintro log step ⟨sound, live⟩ allowed
      have moves := sound.moves step
      exact ⟨sound.step moves, sound.live_step live moves allowed⟩
    · exact ⟨sound_start settings, by simp [Live, start, new, hasPending, Grid.new]⟩
  exact both.2

/-- An event is the only one of its number. -/
theorem Sound.events_of_seq (sound : Sound log) (number : Nat) :
    (log.events.filter (·.seq == number)).length ≤ 1 := by
  have apart := sound.once.filter (·.seq == number)
  cases same : log.events.filter (·.seq == number) with
  | nil => simp
  | cons first rest =>
      cases rest with
      | nil => simp
      | cons second rest =>
          have numbered : ∀ event ∈ first :: second :: rest, event.seq = number := by
            intro event member
            rw [← same] at member
            simpa using (List.mem_filter.mp member).2
          rw [same] at apart
          have less := List.rel_of_pairwise_cons apart (List.mem_cons_self)
          rw [numbered first (by simp), numbered second (by simp)] at less
          exact absurd less (Nat.lt_irrefl _)

end Log

/-- However the steps come, there is one task at most: the one for the request that
the grid issued last and waits for.  No event is ever of a discarded response, also
when the session settles, and each request gives one event at most.  A task that
breaks down fails the page.  While nothing is closed and all columns load, there is
a task just as long as the grid is loading. -/
theorem single_fetch (settings : GridSettings) (steps : List Step) :
    let log := Log.ofRun settings steps
    (log.session.IsIdle ∨ ∃ task, log.session.Carries task ∧
      log.dispatched.head? = some task.pending) ∧
    (∀ respond, ∀ event ∈ (log.session.settle respond).1 ++ log.events,
      event.isDiscarded = false) ∧
    log.dispatched.Pairwise (fun later earlier => earlier.seq < later.seq) ∧
    (∀ respond, ∀ pending ∈ log.dispatched,
      (((log.session.settle respond).1 ++ log.events).filter (·.seq == pending.seq)).length ≤ 1) ∧
    (∀ task ∈ log.session.tasks, ∀ message, task.outcome = some (.crashed message) →
      log.session.nextEvent.1 = some (.failed task.pending.seq (crashFailure message).banner)) ∧
    (Run.Obeys Log.after Log.Undisturbed (.start settings) steps →
      (log.session.hasPending = true ↔ log.session.grid.status = .loading)) := by
  intro log
  have sound : Log.Sound log := Log.sound_ofRun settings steps
  refine ⟨?_, ?_, sound.upwards, ?_, ?_, Log.live_ofRun⟩
  · rcases sound.single with idle | ⟨task, carries, latest, -⟩
    · exact .inl idle
    · exact .inr ⟨task, carries, latest⟩
  · intro respond event member
    exact ((sound.settle respond).reported event member).1
  · intro respond pending _
    exact (sound.settle respond).events_of_seq pending.seq
  · intro task member message crashed
    rcases sound.single with idle | ⟨only, carries, -⟩
    · rw [idle.tasks] at member
      contradiction
    · rw [carries.tasks, List.mem_singleton] at member
      subst member
      rw [carries.nextEvent_finished crashed, carries.seq]
      simp [FetchOutcome.response, Grid.apply]

/-- A page whose task breaks down, and which is asked for again. -/
def retriedCrash : List Step :=
  [.setInputs { dataSourceId := "incidents" }, .setPage 10 20, .finish 1 (.crashed "lost"),
    .nextEvent, .retry]

theorem retriedCrash_loading :
    Run.Obeys Log.after Log.Undisturbed (.start {}) retriedCrash ∧
      (Log.ofRun {} retriedCrash).session.hasPending = true ∧
      (Log.ofRun {} retriedCrash).session.grid.status = .loading := by
  have undisturbed : Run.Obeys Log.after Log.Undisturbed (.start {}) retriedCrash :=
    ⟨trivial, trivial, trivial, trivial, trivial, trivial⟩
  have pending : (Log.ofRun {} retriedCrash).session.hasPending = true := rfl
  obtain ⟨-, -, -, -, -, live⟩ := single_fetch {} retriedCrash
  exact ⟨undisturbed, pending, (live undisturbed).mp pending⟩

end Session

end Aggregation
