import Aggregation.Settings.Value

namespace Aggregation.Toml

/-! Tables under way.

A table grows by the keys and the headers of a text, and how a part of it came
about decides what may still be added to it: nothing to a value, only dotted keys
to what dotted keys have made, and only headers to what headers have made.
-/

inductive Node where
  | value (value : Settings.Value)
  /-- A table that dotted keys have made. -/
  | dotted (entries : List (String × Node))
  /-- A table that headers have made; `opened` says that one of them was its own. -/
  | table (opened : Bool) (entries : List (String × Node))
  /-- The tables of repeated headers, the last of which is the current one. -/
  | list (earlier : List (List (String × Node))) (current : List (String × Node))

abbrev Entries := List (String × Node)

namespace Entries

/-- Changes what stands under a name, if anything does; nothing when that cannot be. -/
def update? (name : String) (change : Option Node → Option Node) : Entries → Option Entries
  | [] => (change none).map fun node => [(name, node)]
  | (key, node) :: rest =>
    if key = name then (change (some node)).map fun node => (key, node) :: rest
    else (update? name change rest).map fun rest => (key, node) :: rest

/-- Adds a value under a dotted key, where nothing may stand yet. -/
def bind? (value : Settings.Value) : (key : List String) → Entries → Option Entries
  | [], _ => none
  | [name], entries => entries.update? name fun
    | none => some (.value value)
    | some _ => none
  | name :: rest, entries => entries.update? name fun
    | none => (bind? value rest []).map .dotted
    | some (.dotted inner) => (bind? value rest inner).map .dotted
    | some _ => none

/-- Changes the table that a header's path leads to, and makes the tables on its way. -/
def within? (change : Entries → Option Entries) : (path : List String) → Entries → Option Entries
  | [], entries => change entries
  | name :: rest, entries => entries.update? name fun
    | none => (within? change rest []).map (.table false)
    | some (.table opened inner) => (within? change rest inner).map (.table opened)
    | some (.list earlier current) => (within? change rest current).map (.list earlier)
    | some _ => none

/-- What a header of its own makes of a table, which can have only one. -/
def openTable? : Option Node → Option Node
  | none => some (.table true [])
  | some (.table false entries) => some (.table true entries)
  | some _ => none

def openItem? : Option Node → Option Node
  | none => some (.list [] [])
  | some (.list earlier current) => some (.list (earlier ++ [current]) [])
  | some _ => none

def header? (repeated : Bool) (path : List String) (entries : Entries) : Option Entries :=
  match path.getLast? with
  | none => none
  | some name =>
    entries.within? (update? name (if repeated then openItem? else openTable?)) path.dropLast

end Entries

mutual

def Node.finish : Node → Settings.Value
  | .value value => value
  | .dotted entries => .table (finishEntries entries)
  | .table _ entries => .table (finishEntries entries)
  | .list earlier current => .list (finishTables earlier ++ [.table (finishEntries current)])

def finishEntries : List (String × Node) → List (String × Settings.Value)
  | [] => []
  | (name, node) :: rest => (name, node.finish) :: finishEntries rest

def finishTables : List (List (String × Node)) → List Settings.Value
  | [] => []
  | entries :: rest => .table (finishEntries entries) :: finishTables rest

end

end Aggregation.Toml
