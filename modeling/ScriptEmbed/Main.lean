import ScriptEmbed.Program

/-!
The command line. Programs cannot be started from here, so a run knows the tool's directory and
its manifest as they are on disk, and ends where it needs the first program.
-/

set_option autoImplicit false
set_option relaxedAutoImplicit false

namespace ScriptEmbed.Main

open Files

/-- The contents of a file, if it can be read. -/
def readFile? (path : String) : IO (Option Octets) :=
  try
    return some (← IO.FS.readBinFile path).toList
  catch _ => return none

def isDirectory (path : String) : IO Bool :=
  try
    let _ ← IO.FS.realPath (path ++ "/.")
    return true
  catch _ => return false

/-- What is on disk at a path below a directory, added to a tree. -/
def addEntry (tree : FileTree) (directory : Place) (names : List Text) : IO FileTree := do
  let place := directory ++ names
  let path := String.ofList (Path.ofPlace place)
  if ← isDirectory path then return tree.plant place .directory
  match ← readFile? path with
  | some contents => return tree.plant place (.file contents none)
  | none => return tree

def write (stream : IO.FS.Stream) (octets : Octets) : IO Unit := do
  stream.write (ByteArray.mk octets.toArray)
  stream.flush

end ScriptEmbed.Main

open ScriptEmbed ScriptEmbed.Main Files in
def main (args : List String) : IO UInt32 := do
  let directory := (← IO.currentDir).toString.toList
  let working := Path.names directory
  let tool := Project.toolDirectoryName
  let tree := FileTree.empty.plant working .directory
  let tree ← addEntry tree working [tool]
  let tree ← addEntry tree working [tool, Manifest.fileName]
  let machine : Tool.Machine := ⟨working, fun _ ↦ .absent⟩
  let argv := CommandLine.standardName :: args.map String.toList
  let (code, session) := Program.run machine (.ofRoot directory) "0.00".toList argv ⟨tree, []⟩
  let stdout ← IO.getStdout
  let color ← stdout.isTty
  Main.write stdout (session.stdout color)
  Main.write (← IO.getStderr) (session.stderr color)
  return code.toUInt32
