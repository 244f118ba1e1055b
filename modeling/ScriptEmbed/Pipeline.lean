import ScriptEmbed.Bundle.Generation

/-!
The pipeline: install the tool's dependencies, generate the bundle, build the host. A stage begins
only after the one before it has fully succeeded, and the first failure ends the run.
-/

set_option autoImplicit false
set_option relaxedAutoImplicit false

namespace ScriptEmbed

open Files

/-- What a successful run produced. -/
structure Report where
  package : Text
  bundlePath : Path
  hostOutputDirectory : Path
  deriving DecidableEq

structure Pipeline where
  project : Project
  placement : Bundle.Placement := .fixed
  collaborators : Collaborators

namespace Pipeline

/-- How this pipeline generates its bundle. -/
def recipe (pipeline : Pipeline) : Bundle.Recipe where
  spec := pipeline.project.bundleSpec
  placement := pipeline.placement

/-- Asks a collaborator whether it is able to work and, if it is, for its work, which has to
succeed. -/
def attempt {α : Type} (first second : Request) (blame : ToolFault → Failure)
    (check : Action Chain α) (work : Action Chain ToolResult) : Action Failure α := do
  Action.ask first
  let value ← check.blame fun chain ↦ blame (.unable chain)
  Action.ask second
  let result ← work.blame fun chain ↦ blame (.unable chain)
  unless result.success do throw (blame .unsuccessful)
  return value

def install (pipeline : Pipeline) : Action Failure Manifest := do
  let installer := pipeline.collaborators.installer
  Action.announce .build "Installing npm dependencies".toList
  attempt .checkInstaller .install .install installer.check installer.install

def bundle (pipeline : Pipeline) (working : Place) (manifest : Manifest) :
    Action Failure Path := do
  Action.announce .build ("Generating bundle for ".toList ++ manifest.label)
  let path ← Bundle.generate working pipeline.recipe pipeline.collaborators.engine
  Action.announce .info ("Bundle generated successfully at ".toList ++ path)
  return path

def buildHost (pipeline : Pipeline) (profile : Profile) : Action Failure Unit := do
  let host := pipeline.collaborators.host
  Action.announce .build
    ("Building host binary (profile=".toList ++ profile.name ++ [')'])
  attempt .checkHost (.buildHost profile) .host host.check (host.build profile)

/-- All three stages. The profile matters to the last one only. -/
def run (pipeline : Pipeline) (working : Place) (profile : Profile) : Action Failure Report := do
  let manifest ← pipeline.install
  let bundlePath ← pipeline.bundle working manifest
  pipeline.buildHost profile
  return {
    package := manifest.label
    bundlePath := bundlePath
    hostOutputDirectory := pipeline.project.hostOutputDirectory profile }

end Pipeline

end ScriptEmbed
