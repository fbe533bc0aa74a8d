import Aggregation.Files
import Aggregation.Grid
import Aggregation.Catalog.Basic
import Aggregation.Json.Reader
import Aggregation.Settings.Layer
import Aggregation.Settings.Value
import Aggregation.Toml.Reader

namespace Aggregation

/-! Settings of a run.

They come in three layers: what is built in, a file if there is one, and the
variables whose names begin with `AGGVIEW__`.
-/

structure Settings where
  grid : GridSettings
  maxDepth : Nat
  endpoint : String
  /-- How long the backend is waited for, in milliseconds. -/
  timeout : Nat
  token : Option String
  logDirectory : String
  screenLevel : String
  fileLevel : String
deriving DecidableEq, Repr

namespace Settings

def builtIn : Value :=
  .table [
    ("grid", .table [("page_size", .ofNat 10),
      ("page_sizes", .list [.ofNat 10, .ofNat 20, .ofNat 50]),
      ("context_debounce_ms", .ofNat 500)]),
    ("schema", .table [("max_depth", .ofNat Catalog.defaultMaxDepth)]),
    ("backend", .table [("endpoint", .text "http://127.0.0.1:3000/graphql"),
      ("timeout_ms", .ofNat 15000)]),
    ("logging", .table [("log_dir", .text "logs"), ("stdout_level", .text "info"),
      ("file_level", .text "debug")])]

/-! ### The file -/

inductive Format where
  | json
  | toml
deriving DecidableEq, Repr

namespace Format

def fileExtension : Format → String
  | json => "json"
  | toml => "toml"

def all : List Format := [toml, json]

/-- The entries of a file.  What is no table has none; a text that cannot be read as
its format makes no layer. -/
def entries? : Format → String → Option (List (String × Value))
  | json, text => (Json.read? text).map fun tree => (Value.ofJson tree).entries
  | toml, text => Toml.read? text

/-- What a file's name has after its last dot; one at its beginning does not count. -/
def extension? (path : String) : Option String :=
  match (Text.split '.' ((Text.split '/' path).getLast?.getD "")).reverse with
  | [_] | [_, ""] => none
  | last :: _ => some last
  | [] => none

def ofPath? (path : String) : Option Format :=
  (extension? path).bind fun name => all.find? (·.fileExtension == name)

end Format

/-- A path without the slashes and the dots between slashes at its end; nothing when
it then ends in no name. -/
def pathToName? (path : String) : Option String :=
  match (Text.split '/' path).reverse.dropWhile fun segment => segment == "" || segment == "." with
  | [] | ".." :: _ => none
  | segments => some ("/".intercalate segments.reverse)

/-- The path of the file that is meant by a path without its extension. -/
def candidate? (path : String) (format : Format) : Option String :=
  (pathToName? path).map fun name => name ++ "." ++ format.fileExtension

/-- The text and format of the file at a path, whose extension may be left out.  A
file of another format does not count, and hides those with an extension. -/
def file? (files : Files) (path : String) : Option (Format × String) :=
  match files.read? path with
  | some text => (Format.ofPath? path).map fun format => (format, text)
  | none => Format.all.findSome? fun format =>
      ((candidate? path format).bind files.read?).map fun text => (format, text)

/-- The layer of a file; nothing when the file cannot be read as its format. -/
def fileLayer? (files : Files) (path : String) : Option (List (String × Value)) :=
  match file? files path with
  | some (format, text) => format.entries? text
  | none => some []

/-! ### The variables -/

/-- Replaces each `__`, from the left, by a dot. -/
def dotted : List Char → List Char
  | '_' :: '_' :: rest => '.' :: dotted rest
  | c :: rest => c :: dotted rest
  | [] => []

/-- The small form of a letter of the names in use, of which the Kelvin sign is one
way to write the `K`. -/
def smallLetter (c : Char) : Char := if c = Char.ofNat 0x212A then 'k' else c.toLower

def key? (name : String) : Option String :=
  let name := name.toList.map smallLetter
  let mark := "aggview__".toList
  if mark.isPrefixOf name then some (String.ofList (dotted (name.drop mark.length))) else none

def variableLayer (environment : List (String × String)) : List (String × Value) :=
  environment.filterMap fun (name, value) => (key? name).map fun key => (key, .text value)

/-! ### All settings -/

def grid? (tree : Value) : Option GridSettings := do
  let pageSize ← (tree.member? 3 0 "page_size").bind Value.count?
  let pageSizes ← (tree.member? 3 1 "page_sizes").bind Value.counts?
  let debounce ← (tree.member? 3 2 "context_debounce_ms").bind Value.count?
  return { pageSize, pageSizes, debounce }

def ofTree? (tree : Value) : Option Settings := do
  let grid ← (tree.member? 4 0 "grid").bind grid?
  let schema ← tree.member? 4 1 "schema"
  let maxDepth ← (schema.member? 1 0 "max_depth").bind Value.count?
  let backend ← tree.member? 4 2 "backend"
  let endpoint ← (backend.member? 3 0 "endpoint").bind Value.text?
  let timeout ← (backend.member? 3 1 "timeout_ms").bind Value.count?
  let token ← Value.optionalText? (backend.member? 3 2 "auth_token")
  let logging ← tree.member? 4 3 "logging"
  let logDirectory ← (logging.member? 3 0 "log_dir").bind Value.text?
  let screenLevel ← (logging.member? 3 1 "stdout_level").bind Value.text?
  let fileLevel ← (logging.member? 3 2 "file_level").bind Value.text?
  return { grid, maxDepth, endpoint, timeout, token, logDirectory, screenLevel, fileLevel }

/-- The settings of a run with a file at `path`, if they can be read. -/
def load? (files : Files) (environment : List (String × String)) (path : String) :
    Option Settings := do
  let fileLayer ← fileLayer? files path
  ofTree? (← Layer.layAll? builtIn [fileLayer, variableLayer environment])

/-- The path of the settings file, unless a variable names another one. -/
def path (environment : List (String × String)) : String :=
  (environment.lookup "AGGVIEW_CONFIG").getD "config"

/-- The names of the variables that set one value each. -/
def variableNames : List String :=
  ["AGGVIEW__GRID__PAGE_SIZE", "AGGVIEW__GRID__PAGE_SIZES", "AGGVIEW__GRID__CONTEXT_DEBOUNCE_MS",
    "AGGVIEW__SCHEMA__MAX_DEPTH", "AGGVIEW__BACKEND__ENDPOINT", "AGGVIEW__BACKEND__TIMEOUT_MS",
    "AGGVIEW__BACKEND__AUTH_TOKEN", "AGGVIEW__LOGGING__LOG_DIR",
    "AGGVIEW__LOGGING__STDOUT_LEVEL", "AGGVIEW__LOGGING__FILE_LEVEL"]

end Settings

end Aggregation
