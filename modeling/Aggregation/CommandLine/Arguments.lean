import Aggregation.Text.Numeral
import Aggregation.Text.Split

namespace Aggregation.CommandLine

/-! Reading the arguments of a command.

A command has options only, each with a value: `--name value` or `--name=value`.
An option is given at most once, and a value of its own may not look like an
option.  Reading stops at the first argument that asks for help or is no use.
-/

inductive ValueKind where
  | text
  /-- A text that is not empty. -/
  | path
  | count
deriving DecidableEq, Repr

def ValueKind.accepts : ValueKind → String → Bool
  | text, _ => true
  | path, value => !value.isEmpty
  | count, value => (Text.word? value.toList).isSome

structure OptionSpec where
  name : String
  about : String := ""
  kind : ValueKind := .text
  isRequired : Bool := false
  /-- The value of an option that is not given. -/
  absent : Option String := none
deriving DecidableEq, Repr

structure CommandSpec where
  name : String
  about : String
  options : List OptionSpec
deriving DecidableEq, Repr

/-- Why no command is run. -/
inductive Stop where
  | help
  | misuse
deriving DecidableEq, Repr

inductive Argument where
  | help
  | option (name : String) (value : Option String)
  /-- `--`, after which no options come. -/
  | separator
  | word (text : String)
  | unknown
deriving DecidableEq, Repr

def Argument.ofLong (text : List Char) : Argument :=
  match Text.splitOnce '=' text with
  | some (name, value) =>
    if name = "help".toList then .unknown
    else .option (String.ofList name) (some (String.ofList value))
  | none =>
    if text.isEmpty then .separator
    else if text = "help".toList then .help
    else .option (String.ofList text) none

def Argument.ofText (text : String) : Argument :=
  match text.toList with
  | '-' :: '-' :: rest => .ofLong rest
  | '-' :: 'h' :: _ => .help
  | '-' :: _ :: _ => .unknown
  | _ => .word text

abbrev Values := List (String × String)

namespace CommandSpec

def accept (spec : CommandSpec) (found : Values) (name value : String) : Except Stop Values :=
  match spec.options.find? (·.name == name) with
  | some option =>
    if option.kind.accepts value && (found.lookup name).isNone then
      .ok (found ++ [(name, value)])
    else .error .misuse
  | none => .error .misuse

/-- Reads arguments, given the values found so far. -/
def readFrom (spec : CommandSpec) (found : Values) : List String → Except Stop Values
  | [] => .ok found
  | [last] =>
    match Argument.ofText last with
    | .help => .error .help
    | .separator => .ok found
    | .option name (some value) => spec.accept found name value
    | _ => .error .misuse
  | first :: second :: rest =>
    match Argument.ofText first with
    | .help => .error .help
    | .option name (some value) =>
      match spec.accept found name value with
      | .ok found => spec.readFrom found (second :: rest)
      | .error stop => .error stop
    | .option name none =>
      match Argument.ofText second with
      | .word value =>
        match spec.accept found name value with
        | .ok found => spec.readFrom found rest
        | .error stop => .error stop
      | _ => .error .misuse
    | _ => .error .misuse

/-- The values of options that are not given but have one. -/
def absentValues (spec : CommandSpec) (found : Values) : Values :=
  spec.options.filterMap fun option =>
    if (found.lookup option.name).isSome then none
    else option.absent.map fun value => (option.name, value)

/-- Reads the arguments of a command; no option it requires may be missing. -/
def read (spec : CommandSpec) (arguments : List String) : Except Stop Values := do
  let found ← spec.readFrom [] arguments
  if spec.options.all fun option => !option.isRequired || (found.lookup option.name).isSome then
    return found ++ spec.absentValues found
  else .error .misuse

end CommandSpec

end Aggregation.CommandLine
