import Aggregation.CommandLine.Help

namespace Aggregation.CommandLine

/-! The commands and their options. -/

/-- Where fields come from: a catalog, a resource in it, and a spec. -/
structure SchemaArguments where
  catalog : String
  resource : String
  query : String
  spec : String
deriving DecidableEq, Repr

structure GridArguments where
  pageSize : Option Nat := none
  skip : Nat := 0
  sort : Option String := none
  context : Option String := none
  dashboard : Option String := none
  asOf : Option String := none
deriving DecidableEq, Repr

inductive Command where
  | fields (schema : SchemaArguments)
  | validate (spec widget : String)
  | request (schema : SchemaArguments) (grid : GridArguments)
  | fetch (spec : String) (grid : GridArguments)
deriving DecidableEq, Repr

namespace Command

def specOption : OptionSpec :=
  { name := "spec", about := "Aggregation spec (JSON)", kind := .path, isRequired := true }

def schemaOptions : List OptionSpec :=
  [{ name := "catalog"
     about := "Introspection result (`__schema` envelope, optionally wrapped in `data`)"
     kind := .path
     isRequired := true },
   { name := "resource", about := "Resource type name", isRequired := true },
   { name := "query", about := "Root query serving the resource's records", isRequired := true },
   specOption]

def gridOptions : List OptionSpec :=
  [{ name := "page-size", kind := .count },
   { name := "skip", kind := .count, absent := some "0" },
   { name := "sort", about := "Sort as `field:asc|desc`" },
   { name := "context", about := "Context filter tree (JSON)" },
   { name := "dashboard"
     about := "Dashboard filter values used for `\x7b\x7bfilter.*\x7d\x7d` placeholders (JSON)" },
   { name := "as-of", about := "Time-travel point: timestamp, date or version token" }]

def fieldsSpec : CommandSpec :=
  ⟨"fields", "Print the fields available at every stage and the stage diagnostics", schemaOptions⟩

def validateSpec : CommandSpec :=
  ⟨"validate", "Run save-time validation on a spec",
    [specOption,
     { name := "widget", about := "Widget type the mapping is checked against"
       absent := some "bar" }]⟩

def requestSpec : CommandSpec :=
  ⟨"request", "Print the wire request the grid would send", schemaOptions ++ gridOptions⟩

def fetchSpec : CommandSpec :=
  ⟨"fetch", "Load one page from the configured backend", specOption :: gridOptions⟩

def specs : List CommandSpec := [fieldsSpec, validateSpec, requestSpec, fetchSpec]

def program : String := "aggview"

def helpAbout : String := "Print this message or the help of the given subcommand(s)"

def helpText : String :=
  programHelp program "Inspect, validate and run aggregation pipelines"
    (specs.map (fun spec => (spec.name, spec.about)) ++ [("help", helpAbout)])

def helpOnHelp : String :=
  helpAbout ++ "\n\nUsage: " ++ program ++ " help [COMMAND]...\n\nArguments:\n" ++
    "  [COMMAND]...  Print help for the subcommand(s)\n"

/-- The value of an option that always has one. -/
def required (values : Values) (name : String) : String := (values.lookup name).getD ""

def count? (values : Values) (name : String) : Option Nat :=
  (values.lookup name).bind fun value => Text.word? value.toList

def schemaArguments (values : Values) : SchemaArguments where
  catalog := required values "catalog"
  resource := required values "resource"
  query := required values "query"
  spec := required values "spec"

def gridArguments (values : Values) : GridArguments where
  pageSize := count? values "page-size"
  skip := (count? values "skip").getD 0
  sort := values.lookup "sort"
  context := values.lookup "context"
  dashboard := values.lookup "dashboard"
  asOf := values.lookup "as-of"

/-- The command of a name, with the values of its options. -/
def ofValues (name : String) (values : Values) : Option Command :=
  match name with
  | "fields" => some (fields (schemaArguments values))
  | "validate" => some (validate (required values "spec") (required values "widget"))
  | "request" => some (request (schemaArguments values) (gridArguments values))
  | "fetch" => some (fetch (required values "spec") (gridArguments values))
  | _ => none

inductive Reading where
  | command (command : Command)
  | help (text : String)
  | misuse

def readHelp : List String → Reading
  | [] => .help helpText
  | [name] =>
    if name = "help" then .help helpOnHelp
    else match specs.find? (·.name == name) with
      | some spec => .help (spec.help program)
      | none => .misuse
  | _ => .misuse

def readNamed (name : String) (arguments : List String) : Reading :=
  match specs.find? (·.name == name) with
  | none => .misuse
  | some spec =>
    match spec.read arguments with
    | .ok values => match ofValues name values with
      | some command => .command command
      | none => .misuse
    | .error .help => .help (spec.help program)
    | .error .misuse => .misuse

def read : List String → Reading
  | [] => .misuse
  | first :: rest =>
    match Argument.ofText first with
    | .help => .help helpText
    | .word name => if name = "help" then readHelp rest else readNamed name rest
    | _ => .misuse

end Command

end Aggregation.CommandLine
