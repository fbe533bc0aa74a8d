import Aggregation.CommandLine.Arguments

namespace Aggregation.CommandLine

/-! The help texts.

Explanations stand in one column, each on one line however wide that gets.
-/

def spaces (count : Nat) : String := String.ofList (List.replicate count ' ')

def padTo (width : Nat) (text : String) : String := text ++ spaces (width - text.length)

/-- A line with an explanation in the column at `column`. -/
def explained (column : Nat) (item explanation : String) : String :=
  padTo column item ++ explanation ++ "\n"

namespace OptionSpec

def valueName (option : OptionSpec) : String :=
  String.ofList (option.name.toList.map fun c => if c = '-' then '_' else c.toUpper)

def form (option : OptionSpec) : String :=
  "--" ++ option.name ++ " <" ++ option.valueName ++ ">"

def explanation (option : OptionSpec) : String :=
  " ".intercalate ((if option.about.isEmpty then [] else [option.about]) ++
    option.absent.toList.map fun value => "[default: " ++ value ++ "]")

end OptionSpec

namespace CommandSpec

def usage (program : String) (spec : CommandSpec) : String :=
  let needed := spec.options.filter (·.isRequired)
  " ".intercalate (["Usage:", program, spec.name] ++
    (if needed.length = spec.options.length then [] else ["[OPTIONS]"]) ++
    needed.map OptionSpec.form)

/-- The column of the explanations, two blanks after the longest option. -/
def column (spec : CommandSpec) : Nat :=
  spec.options.foldl (fun width option => max width (option.form.length + 8)) 12

def help (program : String) (spec : CommandSpec) : String :=
  spec.about ++ "\n\n" ++ spec.usage program ++ "\n\nOptions:\n" ++
    String.join (spec.options.map fun option =>
      explained spec.column ("      " ++ option.form) option.explanation) ++
    explained spec.column "  -h, --help" "Print help"

end CommandSpec

/-- The help on a program as a whole, which lists its commands. -/
def programHelp (program about : String) (commands : List (String × String)) : String :=
  let column := commands.foldl (fun width (name, _) => max width (name.length + 4)) 4
  about ++ "\n\nUsage: " ++ program ++ " <COMMAND>\n\nCommands:\n" ++
    String.join (commands.map fun (name, about) => explained column ("  " ++ name) about) ++
    "\nOptions:\n" ++ explained 14 "  -h, --help" "Print help"

end Aggregation.CommandLine
