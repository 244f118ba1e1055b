import ScriptEmbed.Manifest.Reader
import ScriptEmbed.Session

/-!
Loading the manifest of a tool's directory, and saying whether it declares the bundling engine. An
engine that is not declared is no failure, since it may be installed by way of another package.
-/

set_option autoImplicit false
set_option relaxedAutoImplicit false

namespace ScriptEmbed

open Files

/-- Why a manifest cannot be loaded. -/
inductive ManifestError
  | notFound (path : Path)
  | unreadable (path : Path) (cause : FileError)
  | malformed (path : Path) (text : Text) (fault : Json.Fault)

def ManifestError.chain : ManifestError → Chain
  | .notFound path => ⟨"Dependency manifest not found at ".toList ++ path, []⟩
  | .unreadable path cause => ⟨"Failed to read ".toList ++ path, [cause.message]⟩
  | .malformed path text fault => ⟨"Failed to parse ".toList ++ path, [fault.message text]⟩

namespace Manifest

/-- The manifest of a directory, as the files are. -/
def load (files : FileTree) (working : Place) (directory : Path) : Except ManifestError Manifest :=
  let path := Path.join directory fileName
  if files.pathExists working path then
    match files.readText working path with
    | .error cause => .error (.unreadable path cause)
    | .ok text =>
      match parse text with
      | .error fault => .error (.malformed path text fault)
      | .ok manifest => .ok manifest
  else .error (.notFound path)

/-- What is announced about the engine's package. -/
def engineNotice (manifest : Manifest) : Event :=
  match manifest.requirement? enginePackage with
  | some requirement =>
    .announced .info
      ("Bundler dependency declared: ".toList ++ enginePackage ++ '@' :: requirement)
  | none =>
    .announced .warn
      ('\'' :: enginePackage ++ "' is not declared in ".toList ++ fileName ++
        "; bundling relies on it being installed transitively.".toList)

/-- Loads the manifest and announces whether it declares the engine. -/
def check (working : Place) (directory : Path) : Action ManifestError Manifest := do
  let manifest ← Action.orFail (load (← get).files working directory)
  Action.happen [manifest.engineNotice]
  return manifest

end Manifest

end ScriptEmbed
