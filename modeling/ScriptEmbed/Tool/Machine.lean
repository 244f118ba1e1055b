import ScriptEmbed.Session

/-!
Starting programs. A command names a program, either by a path or by a name to be found among the
programs of the machine, its arguments, and a directory to work in. What a program does is known:
it leaves files, writes to its streams and ends. A program that is only probed changes no file.
-/

set_option autoImplicit false
set_option relaxedAutoImplicit false

namespace ScriptEmbed.Tool

open Files

/-- How a program is to be had by its name. -/
inductive Presence (α : Type)
  | absent
  /-- There is a file, which may not be executed. -/
  | locked
  | present (program : α)

/-- What a program of the machine does: as other programs do, and it may install an engine under
its working directory. -/
structure Deed where
  conduct : Conduct
  engine : Option Entry := none

structure Machine where
  /-- The directory that a run works in. -/
  working : Place
  /-- The programs that are found by name. -/
  programs : Text → Presence Deed

structure Command where
  program : Text
  args : List Text
  /-- Without one, the directory of the run. -/
  directory : Option Path := none

/-- The place of the installed engine under a directory. -/
def enginePlace (directory : Place) : Place :=
  directory ++ ["node_modules".toList, ".bin".toList, "esbuild".toList]

/-- How a program with a NUL in its name is called. -/
def nulName : Text := "<string-with-nul>".toList

def hasNul (text : Text) : Bool := text.contains '\x00'

/-- The name that messages call a command by. -/
def Command.shownProgram (command : Command) : Text :=
  if hasNul command.program then nulName else command.program

/-- The program that a path leads to, or that a name without a slash is looked up as. The names
`.` and `..` lead to directories, which are no programs. -/
def findProgram (machine : Machine) (files : FileTree) (directory : Place) (program : Text) :
    Except FileError Deed :=
  if program.contains '/' then (files.program directory program).map fun conduct ↦ ⟨conduct, none⟩
  else if program = Path.here ∨ program = Path.up then .error .permissionDenied
  else if FileTree.nameIsTooLong program then .error .nameTooLong
  else
    match machine.programs program with
    | .absent => .error .notFound
    | .locked => .error .permissionDenied
    | .present deed => .ok deed

/-- The directory that a command works in, and what its program does. The directory is looked up
first. -/
def locate (machine : Machine) (files : FileTree) (command : Command) :
    Except FileError (Place × Deed) := do
  if hasNul command.program || command.args.any hasNul || command.directory.any hasNul then
    throw .nulInArgument
  let directory ← match command.directory with
    | none => pure machine.working
    | some path => files.workingDirectory machine.working path
  let deed ← findProgram machine files directory command.program
  return (directory, deed)

/-- A file as a program leaves it, unless a directory is in its way. -/
def leaveArtifact (files : FileTree) (directory : Place) (contents : Octets) : FileTree :=
  let place := directory ++ [Bundle.artifactName]
  if files.isDirectory place then files else files.update place (some (.file contents none))

/-- An engine as a program installs it, unless something is in its way. -/
def installEngine (files : FileTree) (directory : Place) (engine : Entry) : FileTree :=
  let place := enginePlace directory
  let free := (List.range place.length).all fun count ↦
    match files.at? (place.take count) with
    | some (.file ..) => false
    | _ => true
  if free && !files.isDirectory place then (files.makeParents place).update place (some engine)
  else files

/-- The files after what a program did in a directory. -/
def Deed.apply (deed : Deed) (directory : Place) (files : FileTree) : FileTree :=
  let files := match deed.conduct.artifact with
    | none => files
    | some contents => leaveArtifact files directory contents
  match deed.engine with
  | none => files
  | some engine => installEngine files directory engine

/-- Starts a command: the directory that it works in, and what its program is going to do. -/
def launch (machine : Machine) (command : Command) : Action FileError (Place × Deed) := do
  let (directory, deed) ← Action.orFail (locate machine (← get).files command)
  Action.happen [.started command.program command.args directory]
  return (directory, deed)

/-- Starts a command and lets it come to its end. -/
def start (machine : Machine) (command : Command) : Action FileError Conduct := do
  let (directory, deed) ← launch machine command
  modify fun session ↦ { session with files := deed.apply directory session.files }
  return deed.conduct

/-- As `start`; a command that cannot be started is blamed by name. -/
def spawn (machine : Machine) (command : Command) : Action Chain Conduct :=
  (start machine command).blame fun cause ↦
    ⟨"Failed to spawn ".toList ++ command.shownProgram, [cause.message]⟩

/-- Starts a command only to see that it can be started; what it writes and how it ends do not
matter. -/
def probe (machine : Machine) (advice : Text) (command : Command) : Action Chain Unit := do
  let _ ← (launch machine command).blame fun cause ↦ (⟨advice, [cause.message]⟩ : Chain)

/-- Runs a command that shares both streams with the run. -/
def runShared (machine : Machine) (command : Command) : Action Chain ToolResult := do
  let conduct ← spawn machine command
  Action.happen [.shared .stdout conduct.stdout, .shared .stderr conduct.stderr]
  return ⟨conduct.status.isSuccess, []⟩

/-- The result of a conduct whose standard error is read for records. -/
def resultOf (conduct : Conduct) : ToolResult :=
  ⟨conduct.status.isSuccess, (Diagnostic.relay conduct.stderr).filterMap (·.record?)⟩

/-- Runs a command that shares its standard output only. Its standard error is read for records,
and all that reading sends out is shown as it comes. -/
def runDiagnosed (machine : Machine) (command : Command) : Action Chain ToolResult := do
  let conduct ← spawn machine command
  Action.happen [.shared .stdout conduct.stdout]
  Action.happen ((Diagnostic.relay conduct.stderr).map Diagnostic.Relay.event)
  return resultOf conduct

end ScriptEmbed.Tool
