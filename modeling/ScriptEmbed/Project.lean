import ScriptEmbed.Bundle.Spec

/-!
The fixed layout of a project: a directory for the tool to be bundled, one for the host that
embeds the bundle, and every other path derived from the root.
-/

set_option autoImplicit false
set_option relaxedAutoImplicit false

namespace ScriptEmbed

open Files

/-- How the host binary is compiled. -/
inductive Profile
  | debug
  | release
  deriving DecidableEq

def Profile.ofRelease (release : Bool) : Profile := if release then .release else .debug

/-- The profile's name, which is also that of its output directory. -/
def Profile.name : Profile → Text
  | .debug => "debug".toList
  | .release => "release".toList

structure Project where
  root : Path
  toolDirectory : Path
  hostDirectory : Path
  entryPoint : Path
  bundleFile : Path
  deriving DecidableEq

namespace Project

def toolDirectoryName : Path := "eslint".toList
def hostDirectoryName : Path := "deno".toList
def standardEntryPoint : Path := "./bin/eslint.js".toList

def ofRoot (root : Path) : Project where
  root := root
  toolDirectory := Path.join root toolDirectoryName
  hostDirectory := Path.join root hostDirectoryName
  entryPoint := standardEntryPoint
  bundleFile := Bundle.artifactName

def bundleSpec (project : Project) : Bundle.Spec :=
  .ofPaths project.toolDirectory project.entryPoint project.bundleFile

def bundlePath (project : Project) : Path := Path.join project.toolDirectory project.bundleFile

/-- Where the host binary is found once it is built. -/
def hostOutputDirectory (project : Project) (profile : Profile) : Path :=
  Path.join (Path.join project.hostDirectory "target".toList) profile.name

/-- The bundling engine that is installed with the tool's dependencies. -/
def engineProgram (project : Project) : Path :=
  Path.join (Path.join (Path.join project.toolDirectory "node_modules".toList) ".bin".toList)
    "esbuild".toList

end Project

end ScriptEmbed
