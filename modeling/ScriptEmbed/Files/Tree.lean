import ScriptEmbed.Files.Error
import ScriptEmbed.Files.Path
import ScriptEmbed.Octets.Utf8

/-!
A file tree says what is at each place: nothing, a directory, or a file, which may be a program.
A path is walked name by name from the root or from a working directory, and each name is looked
up in a directory that is there; the operations on files are stated on the place that a path leads
to.
-/

set_option autoImplicit false
set_option relaxedAutoImplicit false

namespace ScriptEmbed.Files

inductive ExitStatus
  | code (value : Nat)
  | killed
  deriving DecidableEq

/-- The system keeps the low eight bits of an exit code. -/
def ExitStatus.ofCode (value : Int) : ExitStatus := .code (value % 256).toNat

def ExitStatus.isSuccess (status : ExitStatus) : Bool := status == .code 0

/-- What a program does when it is run: the artifact that it leaves in its working directory, what
it writes to its two streams, and how it ends. -/
structure Conduct where
  artifact : Option Octets := none
  stdout : Octets := []
  stderr : Octets := []
  status : ExitStatus := .code 0
  deriving DecidableEq

/-- A file that may be executed has the conduct of its program. -/
inductive Entry
  | directory
  | file (contents : Octets) (program : Option Conduct)
  deriving DecidableEq

structure FileTree where
  entry? : Place → Option Entry

namespace FileTree

def empty : FileTree := ⟨fun _ ↦ none⟩

/-- What is at a place. The root is always a directory. -/
def at? (tree : FileTree) (place : Place) : Option Entry :=
  if place.isEmpty then some .directory else tree.entry? place

/-- The tree with one place changed. -/
def update (tree : FileTree) (place : Place) (entry : Option Entry) : FileTree :=
  ⟨fun other ↦ if other = place then entry else tree.entry? other⟩

/-- The tree without a place and all that is below it. -/
def prune (tree : FileTree) (place : Place) : FileTree :=
  ⟨fun other ↦ if place.isPrefixOf other then none else tree.entry? other⟩

def isDirectory (tree : FileTree) (place : Place) : Bool :=
  match tree.at? place with
  | some .directory => true
  | _ => false

/-- Names longer than this many octets are refused. -/
def longestName : Nat := 255

/-- Paths of this many octets or more are refused. -/
def pathLimit : Nat := 4096

/-- A place that must be a directory if more is to be looked up in it. -/
def demandDirectory (tree : FileTree) (place : Place) : Except FileError Unit :=
  match tree.at? place with
  | some .directory => .ok ()
  | some (.file ..) => .error .notADirectory
  | none => .error .notFound

def nameIsTooLong (name : Text) : Bool := longestName < (Octets.ofText name).length

def checkName (name : Text) : Except FileError Unit :=
  if nameIsTooLong name then .error .nameTooLong else .ok ()

/-- The place that one name leads to. -/
def enter (tree : FileTree) (place : Place) (name : Text) : Except FileError Place := do
  tree.demandDirectory place
  if name = Path.here then return place
  if name = Path.up then return place.dropLast
  checkName name
  match tree.at? (place ++ [name]) with
  | some _ => return place ++ [name]
  | none => throw .notFound

def walk (tree : FileTree) (start : Place) (names : List Text) : Except FileError Place :=
  names.foldlM tree.enter start

def checkPath (path : Path) : Except FileError Unit :=
  if path.contains '\x00' then .error .nulInPath
  else if pathLimit ≤ (Octets.ofText path).length then .error .nameTooLong
  else if path.isEmpty then .error .notFound
  else .ok ()

/-- Where a path starts, for a given working directory. -/
def origin (working : Place) (path : Path) : Place :=
  if Path.isAbsolute path then [] else working

/-- The place of something that is there. -/
def resolve (tree : FileTree) (working : Place) (path : Path) : Except FileError Place := do
  checkPath path
  let place ← tree.walk (origin working path) (Path.names path)
  if Path.endsInSlash path then tree.demandDirectory place
  return place

def pathExists (tree : FileTree) (working : Place) (path : Path) : Bool :=
  match tree.resolve working path with
  | .ok _ => true
  | .error _ => false

/-- The directory that holds the last name of a path, and that name, unless the path has none or
ends in `.` or `..`. -/
def resolveParent (tree : FileTree) (working : Place) (path : Path) :
    Except FileError (Place × Option Text) := do
  checkPath path
  let names := Path.names path
  let parent ← tree.walk (origin working path) names.dropLast
  tree.demandDirectory parent
  match names.getLast? with
  | none => return (parent, none)
  | some name =>
    if name = Path.here ∨ name = Path.up then return (parent, none)
    else return (parent, some name)

/-- The octets of a file. -/
def read (tree : FileTree) (working : Place) (path : Path) : Except FileError Octets := do
  let place ← tree.resolve working path
  match tree.at? place with
  | some (.file contents _) => return contents
  | _ => throw .isADirectory

/-- The text of a file that is valid UTF-8. -/
def readText (tree : FileTree) (working : Place) (path : Path) : Except FileError Text := do
  let contents ← tree.read working path
  match contents.toText? with
  | some text => return text
  | none => throw .notUtf8

/-- Makes a path a file with the given contents. -/
def write (tree : FileTree) (working : Place) (path : Path) (contents : Octets) :
    Except FileError FileTree := do
  match ← tree.resolveParent working path with
  | (_, none) => throw .isADirectory
  | (parent, some name) =>
    if Path.endsInSlash path then throw .isADirectory
    checkName name
    if tree.isDirectory (parent ++ [name]) then throw .isADirectory
    return tree.update (parent ++ [name]) (some (.file contents none))

/-- The directory that one name leads to, made if nothing is there. -/
def enterOrMake (stage : FileTree × Place) (name : Text) : Except FileError (FileTree × Place) := do
  let (tree, place) := stage
  tree.demandDirectory place
  if name = Path.here then return stage
  if name = Path.up then return (tree, place.dropLast)
  checkName name
  match tree.at? (place ++ [name]) with
  | some .directory => return (tree, place ++ [name])
  | some (.file ..) => throw .alreadyExists
  | none => return (tree.update (place ++ [name]) (some .directory), place ++ [name])

/-- Makes a path a directory, with those on the way to it. -/
def makeDirectories (tree : FileTree) (working : Place) (path : Path) :
    Except FileError FileTree := do
  checkPath path
  let (tree, _) ← (Path.names path).foldlM enterOrMake (tree, origin working path)
  return tree

/-- Deletes a file; a directory is refused. -/
def remove (tree : FileTree) (working : Place) (path : Path) : Except FileError FileTree := do
  match ← tree.resolveParent working path with
  | (_, none) => throw .isADirectory
  | (parent, some name) =>
    checkName name
    match tree.at? (parent ++ [name]) with
    | none => throw .notFound
    | some .directory => throw .isADirectory
    | some (.file ..) =>
      if Path.endsInSlash path then throw .notADirectory
      return tree.update (parent ++ [name]) none

/-- The conduct of the program that a path names. -/
def program (tree : FileTree) (working : Place) (path : Path) : Except FileError Conduct := do
  let place ← tree.resolve working path
  match tree.at? place with
  | some (.file _ (some conduct)) => return conduct
  | _ => throw .permissionDenied

/-- The working directory that a path names. -/
def workingDirectory (tree : FileTree) (working : Place) (path : Path) :
    Except FileError Place := do
  let place ← tree.resolve working path
  tree.demandDirectory place
  return place

/-- Makes every directory on the way to a place, where nothing or a directory is there. -/
def makeParents (tree : FileTree) (place : Place) : FileTree :=
  (List.range place.length).foldl
    (fun tree count ↦
      if (tree.at? (place.take count)).isSome then tree
      else tree.update (place.take count) (some .directory))
    tree

/-- Puts an entry at a place in the stead of all that was there, with the directories above it. -/
def plant (tree : FileTree) (place : Place) (entry : Entry) : FileTree :=
  ((tree.prune place).makeParents place).update place (some entry)

end FileTree

end ScriptEmbed.Files
