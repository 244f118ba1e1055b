import ScriptEmbed.Manifest.Basic
import ScriptEmbed.Session

/-!
The three collaborators of the pipeline: one installs the tool's dependencies, one bundles the
tool, one builds the host. Each can say beforehand whether it is able to. A collaborator whose
conduct is fixed in advance is made by `scripted`.
-/

set_option autoImplicit false
set_option relaxedAutoImplicit false

namespace ScriptEmbed

open Files

structure Installer where
  /-- Gives the tool's manifest for the later stages. -/
  check : Action Chain Manifest
  install : Action Chain ToolResult

structure Engine where
  check : Bundle.Spec → Action Chain Unit
  /-- Writes the bundle to the output path and shows each record as it is emitted. -/
  bundle : Bundle.Spec → Action Chain ToolResult

structure HostBuilder where
  check : Action Chain Unit
  build : Profile → Action Chain ToolResult

structure Collaborators where
  installer : Installer
  engine : Engine
  host : HostBuilder

/-- What a collaborator answers when it is asked to check and to work. -/
structure Answers where
  check : Except Chain Unit := .ok ()
  work : Except Chain ToolResult := .ok ⟨true, []⟩

/-- What an engine leaves at the output path. -/
inductive Leaving
  | nothing
  | file (contents : Octets)
  | directory

structure EngineConduct where
  answers : Answers
  leaving : Leaving := .nothing
  /-- What it shows before it answers. -/
  emitted : List Diagnostic := []

def Leaving.apply (leaving : Leaving) (working : Place) (path : Path) (files : FileTree) :
    Except FileError FileTree :=
  match leaving with
  | .nothing => .ok files
  | .file contents => files.write working path contents
  | .directory => files.makeDirectories working path

namespace Installer

def scripted (manifest : Manifest) (answers : Answers) : Installer where
  check := do
    Action.orFail answers.check
    return manifest
  install := Action.orFail answers.work

end Installer

namespace Engine

/-- An engine that leaves something at the output path, shows its records and answers. Where it
cannot leave it, it says why, and shows nothing. -/
def scripted (working : Place) (conduct : EngineConduct) : Engine where
  check _ := Action.orFail conduct.answers.check
  bundle spec := do
    (Action.change (conduct.leaving.apply working spec.outputPath)).blame
      fun cause ↦ ⟨cause.message, []⟩
    Action.happen (conduct.emitted.map Event.reported)
    Action.orFail conduct.answers.work

end Engine

namespace HostBuilder

def scripted (answers : Answers) : HostBuilder where
  check := Action.orFail answers.check
  build _ := Action.orFail answers.work

end HostBuilder

end ScriptEmbed
