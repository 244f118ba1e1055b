import ScriptEmbed.Pipeline
import ScriptEmbed.Proofs.Bundle.Artifact

/-!
In which order a run of the pipeline calls its collaborators, what lets it go on to the next call,
and which stage a failure names. `attempt_result` settles the two stages that only call a
collaborator twice, `Bundle.course_generate` the one between them, and `Trace` puts the three
together: `trace_run` shows that every run is one of its cases. Each says which calls were made, and
on which files, so the order of the calls and the stage that is to blame are read off there.
-/

set_option autoImplicit false
set_option relaxedAutoImplicit false

namespace ScriptEmbed

open Files

/-- That a tool can do its work and ends with success. -/
def Answers.Succeeds (answers : Answers) : Prop :=
  ∃ result, answers.work = .ok result ∧ result.success = true

namespace Pipeline

/-! ### Two calls of one collaborator -/

end Pipeline

/-! ### Scenarios -/

/-- Three collaborators of a given conduct, and what they are to work on. -/
structure Scenario where
  working : Place
  project : Project
  placement : Bundle.Placement
  manifest : Manifest
  installer : Answers
  engine : EngineConduct
  host : Answers

namespace Scenario

def pipeline (scenario : Scenario) : Pipeline where
  project := scenario.project
  placement := scenario.placement
  collaborators := {
    installer := .scripted scenario.manifest scenario.installer
    engine := .scripted scenario.working scenario.engine
    host := .scripted scenario.host }

def output (scenario : Scenario) : Path := scenario.pipeline.recipe.spec.outputPath

/-- That the first stage succeeds. -/
def Installs (scenario : Scenario) : Prop :=
  scenario.installer.check = .ok () ∧ scenario.installer.Succeeds

/-- That the artifact of an earlier run, if there is one, can be removed. -/
def Clears (scenario : Scenario) (files : FileTree) : Prop :=
  ∃ removed cleared, Bundle.clear files scenario.working scenario.output = .ok (removed, cleared)

/-- That the engine does its work without an error, and what it leaves can be read, wrapped and
written. -/
def Bundles (scenario : Scenario) (files : FileTree) : Prop :=
  ∃ removed cleared left raw wrapped written,
    Bundle.clear files scenario.working scenario.output = .ok (removed, cleared) ∧
      Bundle.Produces scenario.working scenario.pipeline.recipe scenario.engine cleared left raw
        wrapped ∧
      left.write scenario.working scenario.output (.ofText wrapped.text) = .ok written

/-- That the second stage succeeds. -/
def Generates (scenario : Scenario) (files : FileTree) : Prop :=
  scenario.Clears files ∧ scenario.engine.answers.check = .ok () ∧ scenario.Bundles files

variable (scenario : Scenario)

section

variable {scenario}
variable {files after : FileTree} {made : List (Request × FileTree)}

end

def calls (made : List (Request × FileTree)) : List Request := made.map Prod.fst

namespace Trace

variable {scenario} {profile : Profile} {files : FileTree} {made : List (Request × FileTree)}
variable {outcome : Except Failure Report}

end Trace

end Scenario

end ScriptEmbed
