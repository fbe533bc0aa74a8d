import Aggregation.Text.Numeral
import Aggregation.Text.Split
import Aggregation.Settings.Value

namespace Aggregation

/-! Settings in layers.

A layer is a list of values with their keys, and a key is the path of a place in
the tree of all settings, such as `grid.page_sizes[0]`.  Laying a table over a
table goes entry by entry; any other value takes the place of what was there.
-/

namespace Settings.Layer

/-- A step of a path: into a table, or into a list, where negative numbers count
from the end. -/
inductive Step where
  | member (name : String)
  | item (index : Int)
deriving DecidableEq, Repr

def isNameChar (c : Char) : Bool := c.isAlphanum || c == ' ' || c == '_' || c == '-'

def isGap (c : Char) : Bool := c == ' ' || c == '\t'

/-- The number of an item, with any blanks around it; it fits 64 bits with its sign. -/
def index? (text : List Char) : Option Int :=
  let inner := ((text.dropWhile isGap).reverse.dropWhile isGap).reverse
  let number := match inner with
    | '-' :: digits => (Text.numeral? digits).map fun n => -(n : Int)
    | digits => (Text.numeral? digits).map fun n => (n : Int)
  number.filter fun n => -(Text.signedLimit : Int) ≤ n && n < Text.signedLimit

/-- A number in brackets, the second of which has been cut off. -/
def itemStep? : List Char → Option Step
  | '[' :: digits => (index? digits).map .item
  | _ => none

def itemSteps? (text : List Char) : Option (List Step) :=
  let pieces := Text.splitChars ']' text
  if pieces.getLast? = some [] then pieces.dropLast.mapM itemStep? else none

/-- One name of a dotted path, with the items that follow it. -/
def pieceSteps? (piece : List Char) : Option (List Step) := do
  let name := piece.takeWhile isNameChar
  guard (!name.isEmpty)
  let items ← itemSteps? (piece.dropWhile isNameChar)
  return .member (String.ofList name) :: items

/-- The steps that a key means; a key that is no path means one name. -/
def path (key : String) : List Step :=
  match (Text.splitChars '.' key.toList).mapM pieceSteps? with
  | some steps => steps.flatten
  | none => [.member key]

/-- Puts an entry in the place of the one with its name, or at the end. -/
def put (name : String) (value : Value) : List (String × Value) → List (String × Value)
  | [] => [(name, value)]
  | (key, old) :: rest =>
    if key = name then (key, value) :: rest else (key, old) :: put name value rest

mutual

/-- Lays a value over what stands in its place, if anything does. -/
def overlay (old : Option Value) : Value → Value
  | .table new =>
    match old with
    | some old => if new.isEmpty then old else .table (overlayEntries old.entries new)
    | none => .table (overlayEntries [] new)
  | value => value

def overlayEntries (old : List (String × Value)) : List (String × Value) → List (String × Value)
  | [] => old
  | (name, value) :: rest =>
    overlayEntries (put name (overlay (old.lookup name) value) old) rest

end

/-- One more than the largest number an item can have. -/
def itemLimit : Nat := 1000000

/-- The position that an item's number means; the first item is the last that can be
counted to from the end. -/
def position? (index : Int) (length : Nat) : Option Nat :=
  if 0 ≤ index then if index < itemLimit then some index.toNat else none
  else if index.natAbs ≤ length then some (length - index.natAbs)
  else none

/-- Puts an item at a position, after as many absent ones as that takes. -/
def putItem (position : Nat) (value : Value) (items : List Value) : List Value :=
  (items ++ List.replicate (position + 1 - items.length) Value.absent).set position value

/-- Lays a value over the tree at the end of a path.  On its way a path makes
the tables and lists that it needs; an item is replaced as a whole. -/
def assign? : (path : List Step) → (value tree : Value) → Option Value
  | [], value, _ => some value
  | [.member name], value, tree =>
    some (.table (put name (overlay (tree.entries.lookup name) value) tree.entries))
  | .member name :: rest, value, tree => do
    let inner ← assign? rest value ((tree.entries.lookup name).getD .absent)
    return .table (put name inner tree.entries)
  | .item index :: rest, value, tree => do
    let position ← position? index tree.items.length
    let inner ← assign? rest value ((tree.items[position]?).getD .absent)
    return .list (putItem position inner tree.items)

/-- Lays a layer over the tree; nothing when a key means an item that cannot be. -/
def lay? (tree : Value) (layer : List (String × Value)) : Option Value :=
  layer.foldlM (fun tree (key, value) => assign? (path key) value tree) tree

/-- Lays the sources of settings over what is built in.  They are laid over one
another first, so that a source can name an item only if another has the list. -/
def layAll? (builtIn : Value) (sources : List (List (String × Value))) : Option Value := do
  let given ← sources.foldlM lay? (.table [])
  lay? builtIn given.entries

end Settings.Layer

end Aggregation
