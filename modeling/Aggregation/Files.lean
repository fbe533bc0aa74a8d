import Aggregation.Text.Split

namespace Aggregation

/-! The text files that a run can see.

A path is walked name by name, and every place it goes on from has to be a
directory.  A directory is known by a file in it, or by having been made.
-/

/-- Where a walk begins: at the root, or so many directories above that of the run. -/
inductive Files.Origin where
  | root
  | above (levels : Nat)
deriving DecidableEq, Repr

/-- A place by the names that lead to it, the last one first. -/
structure Files.Place where
  origin : Files.Origin
  names : List String
deriving DecidableEq, Repr

namespace Files.Place

/-- The directory that a place is in; the root is in itself. -/
def parent (place : Place) : Place :=
  match place.names, place.origin with
  | _ :: names, origin => ⟨origin, names⟩
  | [], .above levels => ⟨.above (levels + 1), []⟩
  | [], .root => place

/-- One segment of a path further on. -/
def step (place : Place) (segment : String) : Place :=
  if segment == "" || segment == "." then place
  else if segment == ".." then place.parent
  else { place with names := segment :: place.names }

/-- The place where a path begins. -/
def start (path : String) : Place := if path.startsWith "/" then ⟨.root, []⟩ else ⟨.above 0, []⟩

end Files.Place

structure Files where
  texts : List (Files.Place × String) := []
  directories : List Files.Place := []

namespace Files

/-- The largest number of bytes in a path, and in a name of it. -/
def pathLimit : Nat := 4095

def nameLimit : Nat := 255

def isDirectory (files : Files) (place : Place) : Bool :=
  place.names.isEmpty || files.directories.contains place

def isFile (files : Files) (place : Place) : Bool := (files.texts.lookup place).isSome

/-! ### Gathering -/

/-- Adds a file and the directories it is reached through. -/
def addFrom (text : String) (place : Place) : List String → Files → Files
  | [], files => { files with texts := files.texts ++ [(place, text)] }
  | segment :: rest, files =>
    addFrom text (place.step segment) rest { files with directories := place :: files.directories }

def add (files : Files) (path text : String) : Files :=
  addFrom text (Place.start path) (Text.split '/' path) files

/-- The files with these paths and texts, and the null device, which is an empty file
everywhere. -/
def ofList (entries : List (String × String)) : Files :=
  (entries ++ [("/dev/null", "")]).foldl (fun files (path, text) => files.add path text) {}

/-! ### Reading -/

def follow? (files : Files) (place : Place) : List String → Option Place
  | [] => some place
  | segment :: rest =>
    if files.isDirectory place then files.follow? (place.step segment) rest else none

def read? (files : Files) (path : String) : Option String :=
  if pathLimit < path.utf8ByteSize then none
  else (files.follow? (Place.start path) (Text.split '/' path)).bind fun place =>
    files.texts.lookup place

/-! ### Making directories -/

/-- Whether a directory may have a name: it is not too long, and has no zero byte. -/
def admitsName (name : String) : Bool := name.utf8ByteSize ≤ nameLimit && !name.contains '\x00'

/-- Makes the directory at a place if it is not there; a file must not be. -/
def make? (files : Files) (place : Place) : Option Files :=
  if files.isDirectory place then some files
  else if files.isFile place || !place.names.all admitsName then none
  else some { files with directories := place :: files.directories }

def makeFrom? (place : Place) : List String → Files → Option Files
  | [], files => some files
  | segment :: rest, files =>
    (files.make? (place.step segment)).bind (makeFrom? (place.step segment) rest)

/-- Makes all directories of a path at whose end there is to be room for a file with a
name of so many bytes. -/
def makeDirectory? (files : Files) (path : String) (nameSize : Nat) : Option Files :=
  let slash := if path.isEmpty || path.endsWith "/" then 0 else 1
  if pathLimit < path.utf8ByteSize + slash + nameSize then none
  else files.makeFrom? (Place.start path) (Text.split '/' path)

end Files

end Aggregation
