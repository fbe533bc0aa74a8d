import Aggregation.Backend.Client
import Aggregation.CommandLine.Actions
import Aggregation.Settings.Basic

namespace Aggregation.CommandLine

/-! A run of the program, given the arguments, the files and variables it finds,
and what becomes of the requests it sends. -/

structure Outcome where
  exitCode : Nat
  output : String := ""
  /-- What is said about a failure; it may go on over several lines. -/
  failure : Option String := none

namespace Outcome

def success (output : String) : Outcome := ⟨0, output, none⟩

def ofFailure (failure : Failure) : Outcome := ⟨1, "", some failure.message⟩

def misuse : Outcome := ⟨2, "", none⟩

/-- A run that could not even begin. -/
def crash : Outcome := ⟨101, "", none⟩

def ofResult : Except Failure String → Outcome
  | .ok output => success output
  | .error failure => ofFailure failure

/-- The first line of what is said about a failure; a line ends with a line feed, and
a carriage return before it belongs to the end. -/
def failureLine (outcome : Outcome) : Option String :=
  outcome.failure.map fun text =>
    let line := text.toList.takeWhile (· != '\n')
    String.ofList (if line.getLast? = some '\r' then line.dropLast else line)

end Outcome

def readSpec (files : Files) (path : String) : Except Failure AggregationSpec :=
  match files.read? path with
  | none => .error (.unreadableSpec path)
  | some text => match (Json.tree? text).bind AggregationSpec.ofJson? with
    | some spec => .ok spec
    | none => .error (.invalidSpec path)

/-- What a record has under `data`, or else the value itself. -/
def unwrapData (value : Json) : Json :=
  match value with
  | .object entries => (entries.lookup "data").getD value
  | value => value

def readCatalog (files : Files) (path : String) (maxDepth : Nat) : Except Failure Catalog :=
  match files.read? path with
  | none => .error (.unreadableCatalog path)
  | some text => match Json.read? text with
    | none => .error (.invalidCatalog path)
    | some value => match Introspection.ofEnvelope? (unwrapData value) with
      | some introspection => .ok ((Catalog.ofIntrospection introspection).withMaxDepth maxDepth)
      | none => .error .notIntrospection

/-- The resource that the arguments describe, which a spec's id stands for. -/
def SchemaArguments.describe (schema : SchemaArguments) (spec : AggregationSpec) : Resource :=
  ⟨spec.dataSourceId, schema.resource, some schema.query⟩

def clientOf (settings : Settings) : Except NetworkError Backend.Client := do
  let client ← Backend.Client.connect settings.endpoint settings.timeout
  return { client with token := settings.token, maxDepth := settings.maxDepth }

def runFields (files : Files) (settings : Settings) (schema : SchemaArguments) :
    Except Failure String := do
  let spec ← readSpec files schema.spec
  let catalog ← readCatalog files schema.catalog settings.maxDepth
  let editor ← openEditor catalog (schema.describe spec) spec
  return (fieldsReport editor).pretty ++ "\n"

def runValidate (files : Files) (path widget : String) : Except Failure String := do
  let spec ← readSpec files path
  match spec.validate widget with
  | .ok () => return "ok\n"
  | .error issues => .error (.unsavable issues)

def runRequest (files : Files) (settings : Settings) (schema : SchemaArguments)
    (grid : GridArguments) : Except Failure String := do
  let spec ← readSpec files schema.spec
  let catalog ← readCatalog files schema.catalog settings.maxDepth
  let request ← requestFor catalog (schema.describe spec) spec grid settings.grid.pageSize
  return request.toJson.pretty ++ "\n"

def runFetch (files : Files) (settings : Settings)
    (send : Backend.HttpRequest → Backend.Exchange) (path : String) (grid : GridArguments) :
    Except Failure String := do
  let spec ← readSpec files path
  let query ← grid.query settings.grid.pageSize spec
  let client ← (clientOf settings).mapError .network
  let session ← fetchSession (client.source send) settings.grid spec query grid
  let settled ← settledGrid session (client.fetch send)
  return (pageReport settled).pretty ++ "\n"

def runCommand (files : Files) (settings : Settings)
    (send : Backend.HttpRequest → Backend.Exchange) : Command → Except Failure String
  | .fields schema => runFields files settings schema
  | .validate spec widget => runValidate files spec widget
  | .request schema grid => runRequest files settings schema grid
  | .fetch spec grid => runFetch files settings send spec grid

/-- Whether a text names a level of the log, by its name or its number. -/
def isLevel (text : String) : Bool :=
  ["", "off", "error", "warn", "info", "debug", "trace"].contains (Text.lowerAscii text) ||
    (Text.word? text.toList).any (· ≤ 5)

/-- The bytes of the name of a log's file, which ends in a date. -/
def logNameSize : Nat := "aggview.log.0000-00-00".utf8ByteSize

/-- A run with settings: both levels have to be known, and the directory of the log is
made if it is not there. -/
def runWith (files : Files) (settings : Settings)
    (send : Backend.HttpRequest → Backend.Exchange) (command : Command) : Outcome :=
  if !isLevel settings.screenLevel || !isLevel settings.fileLevel then .ofFailure .unknownLevel
  else match files.makeDirectory? settings.logDirectory logNameSize with
    | none => .crash
    | some files => .ofResult (runCommand files settings send command)

def run (arguments : List String) (files : Files) (environment : List (String × String))
    (send : Backend.HttpRequest → Backend.Exchange) : Outcome :=
  match Command.read arguments with
  | .help text => .success text
  | .misuse => .misuse
  | .command command =>
    match Settings.load? files environment (Settings.path environment) with
    | none => .crash
    | some settings => runWith files settings send command

end Aggregation.CommandLine
