import ScriptEmbed.Proofs.Bundle.Artifact
import ScriptEmbed.Proofs.Toolchain.Stages

/-!
The engine writes the file that generating a bundle is about. It is told the output file in its last
argument and takes it from the directory that it works in, while the run takes the output path from
its own. Since joining is associative, both are one path from wherever the run is; and where the
engine is started, removing, reading and writing at either comes to the same
(`alike_at_outputPath`). That generating a bundle works on the files at the output path only, and
has the engine started in between, is read off the ways in which it ends (`handled_by_generate`).
-/

set_option autoImplicit false
set_option relaxedAutoImplicit false

namespace ScriptEmbed

open Files Tool ScriptEmbed.Bundle

namespace Bundle

variable {working : Place} {recipe : Recipe} {result : ToolResult} {session : Session}
variable {ending : Except Failure Path × Session}

theorem starts_of_takeover (h : Takeover working recipe session ending) :
    ending.2.starts = session.starts := by
  cases h <;> simp [isStart_layoutNotice]

/-- No verdict starts anything. -/
theorem starts_of_verdict (h : Verdict working recipe result session ending) :
    ending.2.starts = session.starts := by
  cases h with
  | rejected => rfl
  | accepted _ htakeover => simp [starts_of_takeover htakeover, isStart_warningNotice]

end Bundle

namespace Toolchain

/-- What generating a bundle has done to files when it ends, and what it has started. It clears the
output path, lets the engine work in its directory, and reads and overwrites what is then at the
output path; after each of these steps it may have ended, the removal refused or a step failed. -/
inductive Handled (machine : Machine) (project : Project) (recipe : Recipe) (files : FileTree) :
    List Command → FileTree → Prop
  | refused {cause : FileError}
    (clearing : clear files machine.working recipe.spec.outputPath = .error cause) :
    Handled machine project recipe files [] files
  | cleared {removed : Bool} {cleared : FileTree}
    (clearing : clear files machine.working recipe.spec.outputPath = .ok (removed, cleared)) :
    Handled machine project recipe files [] cleared
  | bundled {removed : Bool} {cleared : FileTree} {place : Place} {deed : Deed}
    (clearing : clear files machine.working recipe.spec.outputPath = .ok (removed, cleared))
    (starting : locate machine cleared (engineCommand project recipe.spec) = .ok (place, deed)) :
    Handled machine project recipe files [engineCommand project recipe.spec]
      (deed.apply place cleared)
  | overwritten {removed : Bool} {cleared written : FileTree} {place : Place} {deed : Deed}
    {raw : Text} {wrapped : Wrapped}
    (clearing : clear files machine.working recipe.spec.outputPath = .ok (removed, cleared))
    (starting : locate machine cleared (engineCommand project recipe.spec) = .ok (place, deed))
    (reading : (deed.apply place cleared).readText machine.working recipe.spec.outputPath =
      .ok raw)
    (wrapping : wrap raw recipe.signature recipe.placement = .ok wrapped)
    (writing : (deed.apply place cleared).write machine.working recipe.spec.outputPath
      (.ofText wrapped.text) = .ok written) :
    Handled machine project recipe files [engineCommand project recipe.spec] written

section

variable {machine : Machine} {project : Project} {recipe : Recipe} {spec : Spec}
variable {session after : Session}

/-- Checking the engine only looks. -/
theorem session_of_check {outcome : Except Chain Unit}
    (h : ((engine machine project).check spec).result session = (outcome, after)) :
    after = session := by
  unfold engine at h
  dsimp only at h
  rw [Action.result_bind_of_ok (Action.result_get session)] at h
  split_ifs at h
  · exact (congrArg Prod.snd h).symm
  · exact (congrArg Prod.snd h).symm

/-- The engine either cannot be started, and then nothing has happened, or it has done its deed in
its directory. -/
theorem started_of_bundle {outcome : Except Chain ToolResult}
    (h : ((engine machine project).bundle spec).result session = (outcome, after)) :
    (∃ chain, outcome = .error chain ∧ after = session) ∨
      ∃ place deed, locate machine session.files (engineCommand project spec) = .ok (place, deed) ∧
        after.files = deed.apply place session.files ∧
        after.starts = session.starts ++ [(engineCommand project spec).event machine] := by
  have hcommand : (engine machine project).bundle spec =
      runDiagnosed machine (engineCommand project spec) := rfl
  rw [hcommand] at h
  cases hlocate : locate machine session.files (engineCommand project spec) with
  | error cause =>
    obtain ⟨chain, hspawn⟩ := result_spawn_of_unlocated hlocate
    cases (Action.result_bind_of_error hspawn).symm.trans h
    exact Or.inl ⟨chain, rfl, rfl⟩
  | ok located =>
    obtain ⟨place, deed⟩ := located
    cases (result_runDiagnosed (result_spawn_of_located hlocate)).symm.trans h
    exact Or.inr ⟨place, deed, rfl, rfl, ((performs_runDiagnosed machine _).of_ok h).1⟩

end

/-- Generating a bundle, however it ends, has handled the files so. -/
theorem handled_by_generate (machine : Machine) (project : Project) (recipe : Recipe)
    (session : Session) :
    ∃ commands outcome after,
      (generate machine.working recipe (engine machine project)).result session =
        (outcome, after) ∧
      Handled machine project recipe session.files commands after.files ∧
      after.starts = session.starts ++ commands.map (·.event machine) := by
  have hexit := exit_generate machine.working recipe (engine machine project) session
  generalize (generate machine.working recipe (engine machine project)).result session = ending
    at hexit
  cases hexit with
  | refused hclear => exact ⟨[], _, _, rfl, .refused hclear, by simp⟩
  | unchecked hclear hcheck =>
    obtain rfl := session_of_check hcheck
    exact ⟨[], _, _, rfl, .cleared hclear, by simp [isStart_removalNotice]⟩
  | unbundled hclear hcheck hbundle =>
    obtain rfl := session_of_check hcheck
    rcases started_of_bundle hbundle with ⟨_, -, rfl⟩ | ⟨place, deed, hlocate, hfiles, hstarts⟩
    · exact ⟨[], _, _, rfl, .cleared hclear, by simp [isStart_removalNotice]⟩
    · refine ⟨[engineCommand project recipe.spec], _, _, rfl, ?_,
        by simp [hstarts, isStart_removalNotice]⟩
      rw [hfiles]
      exact .bundled hclear hlocate
  | judged hclear hcheck hbundle hverdict =>
    obtain rfl := session_of_check hcheck
    rcases started_of_bundle hbundle with ⟨_, hfailed, -⟩ | ⟨place, deed, hlocate, hfiles, hstarts⟩
    · cases hfailed
    refine ⟨[engineCommand project recipe.spec], _, _, rfl, ?_,
      by simp [starts_of_verdict hverdict, hstarts, isStart_removalNotice]⟩
    rcases files_of_verdict hverdict with
      ⟨_, -, -, hleft, -⟩ | ⟨raw, wrapped, -, -, hread, hwrap, hwrite⟩
    · rw [hleft, hfiles]
      exact .bundled hclear hlocate
    · rw [hfiles] at hread hwrite
      exact .overwritten hclear hlocate hread hwrap hwrite

/-- Where the engine is started, what is done at its output file, taken from its directory, and what
is done at the output path come to the same. -/
theorem alike_at_outputPath {machine : Machine} {project : Project} {spec : Spec} {files : FileTree}
    {place : Place} {deed : Deed}
    (hlocate : locate machine files (engineCommand project spec) = .ok (place, deed))
    (hfile : spec.outputFile ≠ []) (hcheck : FileTree.checkPath spec.outputPath = .ok ()) :
    files.remove machine.working spec.outputPath = files.remove place spec.outputFile ∧
      files.readText machine.working spec.outputPath = files.readText place spec.outputFile ∧
      ∀ contents, files.write machine.working spec.outputPath contents =
        files.write place spec.outputFile contents := by
  have hdirectory : files.workingDirectory machine.working spec.workingDirectory = .ok place :=
    (locate_eq_ok_iff.mp hlocate).2.1
  exact ⟨FileTree.remove_join hdirectory hfile hcheck,
    FileTree.readText_join hdirectory hfile hcheck, FileTree.write_join hdirectory hfile hcheck⟩

/-- The engine writes where the result is looked for. Its last argument tells it an output file,
which, taken from the directory that it works in, is the output path, as one text from wherever the
run is. The output path is what generating a bundle clears before the engine is started, with these
arguments and in this directory, and what it reads and overwrites afterwards. Wherever the engine
can be started, removing, reading and writing that file from its directory is removing, reading and
writing at the output path, unless it is told nothing or the path is too long to be looked up. -/
theorem engine_writes_outputPath (machine : Machine) (project : Project) (recipe : Recipe) :
    ∃ told, (engineCommand project recipe.spec).args.getLast? = some ("--outfile=".toList ++ told) ∧
      (engineCommand project recipe.spec).directory = some recipe.spec.workingDirectory ∧
      (∀ current, Path.join (Path.join current recipe.spec.workingDirectory) told =
        Path.join current recipe.spec.outputPath) ∧
      (∀ session, ∃ commands outcome after,
        (generate machine.working recipe (engine machine project)).result session =
          (outcome, after) ∧
        Handled machine project recipe session.files commands after.files ∧
        after.starts = session.starts ++ commands.map (·.event machine)) ∧
      ∀ files place deed,
        locate machine files (engineCommand project recipe.spec) = .ok (place, deed) →
        told ≠ [] → FileTree.checkPath recipe.spec.outputPath = .ok () →
        files.remove machine.working recipe.spec.outputPath = files.remove place told ∧
          files.readText machine.working recipe.spec.outputPath = files.readText place told ∧
          ∀ contents, files.write machine.working recipe.spec.outputPath contents =
            files.write place told contents := by
  refine ⟨recipe.spec.outputFile, ?_, rfl, ?_, handled_by_generate machine project recipe, ?_⟩
  · exact List.getLast?_concat
  · intro current
    exact Path.join_assoc current recipe.spec.workingDirectory recipe.spec.outputFile
  · intro files place deed hlocate hfile hcheck
    exact alike_at_outputPath hlocate hfile hcheck

/-- An engine that is installed and does nothing. -/
def idleFiles : FileTree :=
  FileTree.empty.plant ["r".toList, "eslint".toList, "node_modules".toList, ".bin".toList,
    "esbuild".toList] (.file [] (some {}))

def idleMachine : Machine where
  working := ["r".toList]
  programs := fun _ ↦ .absent

/-- A directory that ends in a slash, and an output file that begins with a dot. -/
theorem engine_writes_outputPath_dotted :
    ∃ deed, locate idleMachine idleFiles (engineCommand (.ofRoot "/r".toList)
        (.ofPaths "eslint/".toList "./bin/eslint.js".toList "./out.js".toList)) =
          .ok (["r".toList, "eslint".toList], deed) ∧
      FileTree.checkPath "eslint/./out.js".toList = .ok () ∧
      idleFiles.remove ["r".toList] "eslint/./out.js".toList =
        idleFiles.remove ["r".toList, "eslint".toList] "./out.js".toList ∧
      ∀ contents, idleFiles.write ["r".toList] "eslint/./out.js".toList contents =
        idleFiles.write ["r".toList, "eslint".toList] "./out.js".toList contents := by
  have hlocate : locate idleMachine idleFiles (engineCommand (.ofRoot "/r".toList)
      (.ofPaths "eslint/".toList "./bin/eslint.js".toList "./out.js".toList)) =
        .ok (["r".toList, "eslint".toList], ⟨{}, none⟩) := rfl
  have hcheck : FileTree.checkPath "eslint/./out.js".toList = .ok () := rfl
  obtain ⟨told, htold, -, -, -, halike⟩ := engine_writes_outputPath idleMachine
    (.ofRoot "/r".toList)
    { spec := .ofPaths "eslint/".toList "./bin/eslint.js".toList "./out.js".toList }
  have hvalue : "--outfile=".toList ++ "./out.js".toList = "--outfile=".toList ++ told :=
    Option.some.inj htold
  obtain rfl := List.append_cancel_left hvalue
  obtain ⟨hremove, -, hwrite⟩ := halike idleFiles _ _ hlocate (by decide) hcheck
  exact ⟨_, hlocate, hcheck, hremove, hwrite⟩

end Toolchain

end ScriptEmbed
