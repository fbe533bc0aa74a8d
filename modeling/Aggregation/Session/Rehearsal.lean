import Aggregation.Session.Basic

namespace Aggregation

/-! A session against a scripted backend, on a clock of its own.

Nothing that was dispatched runs until a step waits.  A request first waits its
debounce time, then takes the next reply of the script, and then waits as long
as the reply says.  A step that waits sees all that is due before its end; what
is due at its very end is left for the next one.
-/

inductive Reply.Act where
  | crash (message : String)
  | fail (error : NetworkError)
  | page (page : AggregationPage)
  /-- A page with the request as its one item. -/
  | echo

structure Reply where
  delay : Nat := 0
  act : Reply.Act := .echo

namespace Reply

def echoPage (request : AggregationRequest) : AggregationPage :=
  ⟨[request.toJson.normal], 1⟩

def outcome (reply : Reply) (request : AggregationRequest) : FetchOutcome :=
  match reply.act with
  | .crash message => .crashed message
  | .fail error => .answered (.error error)
  | .page page => .answered (.ok page)
  | .echo => .answered (.ok (echoPage request))

end Reply

inductive Progress where
  /-- Waiting for its debounce time to end. -/
  | debouncing (due : Nat)
  /-- Waiting for the reply, which comes with this outcome. -/
  | fetching (due : Nat) (outcome : FetchOutcome)
  | finished

structure Rehearsal where
  session : Session
  now : Nat := 0
  /-- The replies not yet taken. -/
  script : List Reply
  /-- The requests that reached the backend, in order. -/
  requests : List AggregationRequest := []
  /-- The task that is running, and how far it has come. -/
  running : Option (FetchTask × Progress) := none

namespace Rehearsal

def new (settings : GridSettings) (script : List Reply) : Rehearsal :=
  { session := .new settings, script }

/-- Goes on with another state of the session; a new task starts its debounce
time now. -/
def withSession (r : Rehearsal) (session : Session) : Rehearsal :=
  match session.tasks.getLast? with
  | none => { r with session, running := none }
  | some task =>
    if r.running.any fun (current, _) => current.id = task.id then { r with session }
    else { r with
      session
      running := some (task, .debouncing (r.now + task.pending.debounce)) }

/-- Whether something due at `time` happens in a wait up to `limit`. -/
def isDue (limit : Option Nat) (time : Nat) : Bool := limit.all (time < ·)

/-- Lets the running task reach the backend, if that is due. -/
def enter (limit : Option Nat) (r : Rehearsal) : Rehearsal :=
  match r.running with
  | some (task, .debouncing time) =>
    if isDue limit time then
      let reply := r.script.headD {}
      let request := task.pending.request
      let now := max r.now time
      { r with
        now
        script := r.script.tail
        requests := r.requests ++ [request]
        running := some (task, .fetching (now + reply.delay) (reply.outcome request)) }
    else r
  | _ => r

/-- Lets the running task end, if that is due. -/
def leave (limit : Option Nat) (r : Rehearsal) : Rehearsal :=
  match r.running with
  | some (task, .fetching time outcome) =>
    if isDue limit time then
      { r with
        now := max r.now time
        session := r.session.finish task.id outcome
        running := some (task, .finished) }
    else r
  | _ => r

/-- Lets happen what is due before `limit`, or all that will ever be. -/
def run (limit : Option Nat) (r : Rehearsal) : Rehearsal := leave limit (enter limit r)

def sleep (r : Rehearsal) (milliseconds : Nat) : Rehearsal :=
  if milliseconds = 0 then r
  else { run (some (r.now + milliseconds)) r with now := r.now + milliseconds }

/-- Waits for the next finished task and hands it to the grid. -/
def next (r : Rehearsal) : Option GridEvent × Rehearsal :=
  if r.session.hasPending then
    let r := run none r
    let (event, session) := r.session.nextEvent
    (event, r.withSession session)
  else (none, r)

/-- Hands at most `count` finished tasks to the grid. -/
def drain (r : Rehearsal) : (count : Nat) → List GridEvent × Rehearsal
  | 0 => ([], r)
  | count + 1 =>
    match r.next with
    | (none, r) => ([], r)
    | (some event, r) =>
      let (events, r) := r.drain count
      (event :: events, r)

/-- Hands every pending task to the grid. -/
def settle (r : Rehearsal) : List GridEvent × Rehearsal := r.drain r.session.tasks.length

end Rehearsal

end Aggregation
