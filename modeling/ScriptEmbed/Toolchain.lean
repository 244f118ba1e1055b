import ScriptEmbed.Manifest.Loading
import ScriptEmbed.Pipeline
import ScriptEmbed.Tool.Machine

/-!
The standard collaborators, which start programs: a package manager in the tool's directory, the
engine that it installs there, and a compiler in the host's directory. The package manager and the
compiler are first asked for their version, in the directory of the run.
-/

set_option autoImplicit false
set_option relaxedAutoImplicit false

namespace ScriptEmbed.Toolchain

open Files Tool

def packageManager : Text := "npm".toList

def hostCompiler : Text := "cargo".toList

def packageManagerAdvice : Text :=
  "npm not found. Please install Node.js and npm: https://nodejs.org/".toList

def hostCompilerAdvice : Text :=
  "Cargo toolchain not found. Please install Rust and Cargo.".toList

def engineMissing (program : Path) : Chain :=
  ⟨"esbuild not found at ".toList ++ program ++
    ". Declare esbuild in package.json and rerun npm install.".toList, []⟩

/-- What the compiler is asked to do. -/
def buildArgs : Profile → List Text
  | .debug => ["build".toList]
  | .release => ["build".toList, "--release".toList]

def installer (machine : Machine) (project : Project) : Installer where
  check := do
    let manifest ← (Manifest.check machine.working project.toolDirectory).blame
      ManifestError.chain
    probe machine packageManagerAdvice ⟨packageManager, ["-v".toList], none⟩
    return manifest
  install := runShared machine ⟨packageManager, ["install".toList], some project.toolDirectory⟩

def engine (machine : Machine) (project : Project) : Engine where
  check _ := do
    unless (← get).files.pathExists machine.working project.engineProgram do
      throw (engineMissing project.engineProgram)
  bundle spec :=
    runDiagnosed machine ⟨project.engineProgram, spec.engineArgs, some spec.workingDirectory⟩

def host (machine : Machine) (project : Project) : HostBuilder where
  check := probe machine hostCompilerAdvice ⟨hostCompiler, ["--version".toList], none⟩
  build profile := runShared machine ⟨hostCompiler, buildArgs profile, some project.hostDirectory⟩

/-- The pipeline over the standard collaborators. -/
def pipeline (machine : Machine) (project : Project) (placement : Bundle.Placement) :
    Pipeline where
  project := project
  placement := placement
  collaborators := ⟨installer machine project, engine machine project, host machine project⟩

end ScriptEmbed.Toolchain
