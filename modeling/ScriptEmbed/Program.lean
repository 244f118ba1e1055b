import ScriptEmbed.CommandLine.Messages
import ScriptEmbed.Toolchain

/-!
The whole program: its arguments either stop it with a text or choose the profile of one run of
the standard pipeline, whose end is shown and gives the exit code.
-/

set_option autoImplicit false
set_option relaxedAutoImplicit false

namespace ScriptEmbed.Program

open Files Tool

/-- What is shown at the end of a successful run that took the given time in seconds. -/
def completionNotice (elapsed : Text) (report : Report) : Event :=
  .announced .done
    ("Pipeline completed in ".toList ++ elapsed ++ "s → ".toList ++ report.bundlePath ++
      " for ".toList ++ report.package ++ " (host: ".toList ++ report.hostOutputDirectory ++ [')'])

/-- Runs the program and gives its exit code and the session at its end. -/
def run (machine : Machine) (project : Project) (elapsed : Text) (argv : List Text)
    (session : Session) : Nat × Session :=
  match CommandLine.parse argv with
  | .error stop =>
    let message := stop.message (CommandLine.shownName argv)
    (stop.exitCode, { session with events := session.events ++ [.printed stop.stream message] })
  | .ok options =>
    let pipeline := Toolchain.pipeline machine project .fixed
    match (pipeline.run machine.working options.profile).result session with
    | (.ok report, session) =>
      (0, { session with events := session.events ++ [completionNotice elapsed report] })
    | (.error failure, session) =>
      (1, { session with events := session.events ++ [.failed failure] })

end ScriptEmbed.Program
