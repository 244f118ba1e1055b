import Mathlib.Tactic.SplitIfs
import ScriptEmbed.Proofs.Bundle.Exits
import ScriptEmbed.Proofs.Console.Wording
import ScriptEmbed.Proofs.Diagnostic.Headers
import ScriptEmbed.Proofs.Tool.Diagnosed
import ScriptEmbed.Toolchain

/-!
From what the installed engine writes to its standard error to the verdict of the bundle stage. Once
the engine has been started, generating the bundle comes to adopting its result
(`result_generate_of_started`), and that result is decided by two counts of header lines and the
exit status (`rejection?_resultOf`, `judged_of_verdict`). All records are on the standard error of
the run before the verdict, and taking over what the engine left adds nothing to it
(`stderr_of_takeover`). The lines are those of the whole stream, decoded at once.
-/

set_option autoImplicit false
set_option relaxedAutoImplicit false

namespace ScriptEmbed

open Files Tool Diagnostic

/-- Without lines that are passed on, all that is sent out is records. -/
theorem Diagnostic.Relay.eq_map_reported {sent : List Relay}
    (h : sent.filterMap Relay.line? = []) :
    sent = (sent.filterMap Relay.record?).map .reported := by
  induction sent with
  | nil => rfl
  | cons first sent ih =>
    cases first with
    | echoed line => cases h
    | reported record => exact congrArg (Relay.reported record :: ·) (ih h)

/-- What a stream is read as: the records of its blocks, one for each header line, and the lines
that are passed on, either in their order. -/
structure Tool.ReadAs (stream : Octets) (sent : List Relay) : Prop where
  records_eq : sent.filterMap Relay.record? = blockRecords (offlineOperations stream)
  headers_eq : (sent.filterMap Relay.record?).map Diagnostic.header =
    (offlineLines stream).filterMap header?
  lines_eq : sent.filterMap Relay.line? = passedLines (offlineLines stream)

theorem Tool.readAs_relay (stream : Octets) : ReadAs stream (relay stream) where
  records_eq := records_relay stream
  headers_eq := by rw [records_relay, offlineOperations, headers_of_lines]
  lines_eq := lines_relay stream

namespace Bundle

/-! ### What the stage says on standard output -/

/-- What is said of a file that was at the output path. -/
def removalWords (color : Bool) (path : Path) (removed : Bool) : Text :=
  if removed then
    Console.Tag.info.spelled color ++ " ".toList ++
      ("Removed previous bundle at ".toList ++ path) ++ "\n".toList
  else []

/-- What is said of so many warnings. -/
def warningWords (color : Bool) (count : Nat) : Text :=
  if 0 < count then
    Console.Tag.info.spelled color ++ " ".toList ++ ("esbuild finished with ".toList ++
      Nat.toDigits 10 count ++ " warning(s)".toList) ++ "\n".toList
  else []

theorem stdout_removalNotice (color : Bool) (path : Path) (removed : Bool) :
    (removalNotice path removed).flatMap (Event.stdout color) =
      Octets.ofText (removalWords color path removed) := by
  cases removed with
  | false => rfl
  | true =>
    refine (List.flatMap_singleton _ _).trans (congrArg Octets.ofText ?_)
    exact Console.line_eq_spelled color .info _

theorem stdout_warningNotice (color : Bool) (result : ToolResult) :
    (warningNotice result).flatMap (Event.stdout color) =
      Octets.ofText (warningWords color result.warnings.length) := by
  unfold warningNotice warningWords
  split
  · refine (List.flatMap_singleton _ _).trans (congrArg Octets.ofText ?_)
    exact Console.line_eq_spelled color .info _
  · rfl

/-! ### After the engine's result -/

section

variable {working : Place} {recipe : Recipe} {result : ToolResult} {session : Session}
variable {ending : Except Failure Path × Session}

theorem stderr_of_takeover (h : Takeover working recipe session ending) (color : Bool) :
    ending.2.stderr color = session.stderr color := by
  have hquiet : ∀ wrapped, (session.noting (layoutNotice wrapped)).stderr color =
      session.stderr color := by
    intro wrapped
    rw [Session.stderr_noting, stderr_layoutNotice, List.append_nil]
  cases h with
  | unreadable | unwrappable => rfl
  | unwritable => exact hquiet _
  | written => exact hquiet _

/-- The only fault of the bundle that taking over ends with is that the bundle cannot be wrapped. -/
theorem not_takeover_of_fault {fault : BundleFault} {after : Session}
    (h : ∀ cause, fault ≠ .unwrappable cause) :
    ¬ Takeover working recipe session (.error (.bundle fault), after) := by
  intro htakeover
  cases htakeover with
  | unwrappable => exact h _ rfl

/-- An engine that can work and gives a result leaves the verdict to what adopts it. -/
theorem result_generate_of_answers {engine : Engine} {removed : Bool} {cleared : FileTree}
    {checked bundled : Session}
    (hclear : clear session.files working recipe.spec.outputPath = .ok (removed, cleared))
    (hcheck : (engine.check recipe.spec).result
      (({ session with files := cleared }.noting
        (removalNotice recipe.spec.outputPath removed)).asking .checkEngine) = (.ok (), checked))
    (hbundle : (engine.bundle recipe.spec).result (checked.asking .bundle) =
      (.ok result, bundled)) :
    (generate working recipe engine).result session =
      (adopt working recipe result).result bundled := by
  unfold generate produce
  rw [Action.result_bind_of_ok (by rw [result_removeStale, hclear]),
    Action.result_bind_of_ok (Action.result_happen _ _),
    Action.result_bind_of_ok (Action.result_ask _ _),
    Action.result_bind_of_ok (Action.result_blame_of_ok hcheck),
    Action.result_bind_of_ok (Action.result_ask _ _),
    Action.result_bind_of_ok (Action.result_blame_of_ok hbundle)]

end

end Bundle

/-! ### The installed engine -/

namespace Toolchain

/-- How the engine of a project is started. -/
def engineCommand (project : Project) (spec : Bundle.Spec) : Command where
  program := project.engineProgram
  args := spec.engineArgs
  directory := some spec.workingDirectory

theorem rejection?_resultOf (conduct : Conduct) :
    Bundle.rejection? (resultOf conduct) =
      if 0 < headerCount .error (offlineLines conduct.stderr) then
        some (.errorsReported (headerCount .error (offlineLines conduct.stderr)))
      else if conduct.status = .code 0 then none
      else some .unsuccessful := by
  have hsuccess : (resultOf conduct).success = decide (conduct.status = .code 0) :=
    beq_eq_decide conduct.status (.code 0)
  rw [Bundle.rejection?, length_errors_resultOf, stderrLines_eq_offlineLines, hsuccess]
  by_cases hstatus : conduct.status = .code 0 <;> simp [hstatus]

section

variable {machine : Machine} {project : Project} {recipe : Bundle.Recipe} {session : Session}
variable {removed : Bool} {cleared : FileTree} {directory : Place} {deed : Deed}

theorem result_check_of_present {spec : Bundle.Spec}
    (h : session.files.pathExists machine.working project.engineProgram = true) :
    ((engine machine project).check spec).result session = (.ok (), session) := by
  unfold engine
  dsimp only
  rw [Action.result_bind_of_ok (Action.result_get session), if_pos h, Action.result_pure]

/-- What the bundle stage makes of an engine that has reported so many errors and warnings and has
ended so, from the session in which all of them are shown. Errors are counted in the failure
whatever the exit status, and without errors a bad end is one on its own. What the engine left is
taken over exactly if it ended with status 0 and without errors, after a summary of the warnings if
there are any. Nothing more is said on standard error. -/
structure Judged (working : Place) (recipe : Bundle.Recipe) (status : ExitStatus)
    (errors warnings : Nat) (shown : Session) (outcome : Except Failure Path) (after : Session) :
    Prop where
  quiet : ∀ color, after.stderr color = shown.stderr color
  of_errors : 0 < errors → after = shown ∧ ∃ failure, outcome = .error failure ∧
    failure = .bundle (.errorsReported errors) ∧
    failure.message = "Bundle generation failed: ".toList ++
      ("esbuild reported ".toList ++ Nat.toDigits 10 errors ++ " error(s)".toList)
  of_end : errors = 0 → status ≠ .code 0 → after = shown ∧ ∃ failure, outcome = .error failure ∧
    failure = .bundle .unsuccessful ∧
    failure.message = "Bundle generation failed: ".toList ++
      "esbuild exited with a non-zero status".toList
  takeover_iff : ∃ summarised, summarised.files = shown.files ∧
    shown.Shows (fun color ↦ .ofText (Bundle.warningWords color warnings)) (fun _ ↦ [])
      summarised ∧
    (Bundle.Takeover working recipe summarised (outcome, after) ↔ status = .code 0 ∧ errors = 0)

/-- The three verdicts on a conduct, by its errors and its exit status. -/
theorem judged_of_verdict {working : Place} {conduct : Conduct} {errors warnings : Nat}
    {shown after : Session} {outcome : Except Failure Path}
    (herrors : headerCount .error (offlineLines conduct.stderr) = errors)
    (hwarnings : headerCount .warning (offlineLines conduct.stderr) = warnings)
    (h : Bundle.Verdict working recipe (resultOf conduct) shown (outcome, after)) :
    Judged working recipe conduct.status errors warnings shown outcome after := by
  let summarised := shown.noting (Bundle.warningNotice (resultOf conduct))
  have hsummary : shown.Shows (fun color ↦ .ofText (Bundle.warningWords color warnings))
      (fun _ ↦ []) summarised := by
    constructor <;> intro color
    · rw [Session.stdout_noting, Bundle.stdout_warningNotice, length_warnings_resultOf,
        stderrLines_eq_offlineLines, hwarnings]
    · rw [Session.stderr_noting, Bundle.stderr_warningNotice]
  have hrejection := rejection?_resultOf conduct
  rw [herrors] at hrejection
  -- the result is rejected for one of two reasons, and the errors are looked at first
  cases h with
  | rejected hfault =>
    rw [hfault] at hrejection
    split_ifs at hrejection with hsome hstatus
    · obtain rfl := Option.some.inj hrejection
      exact {
        quiet := fun _ ↦ rfl
        of_errors := fun _ ↦ ⟨rfl, _, rfl, rfl, Failure.message_eq_spelled _⟩
        of_end := fun hnone ↦ absurd hnone (Nat.ne_of_gt hsome)
        takeover_iff := ⟨summarised, rfl, hsummary,
          iff_of_false (Bundle.not_takeover_of_fault nofun) fun hgood ↦
            Nat.ne_of_gt hsome hgood.2⟩ }
    · obtain rfl := Option.some.inj hrejection
      exact {
        quiet := fun _ ↦ rfl
        of_errors := fun hpos ↦ absurd hpos hsome
        of_end := fun _ _ ↦ ⟨rfl, _, rfl, rfl, Failure.message_eq_spelled _⟩
        takeover_iff := ⟨summarised, rfl, hsummary,
          iff_of_false (Bundle.not_takeover_of_fault nofun) fun hgood ↦ hstatus hgood.1⟩ }
  | accepted hacceptance htakeover =>
    rw [hacceptance] at hrejection
    split_ifs at hrejection with hsome hstatus
    exact {
      quiet := fun color ↦ by
        rw [Bundle.stderr_of_takeover htakeover, hsummary.stderr_eq, List.append_nil]
      of_errors := fun hpos ↦ absurd hpos hsome
      of_end := fun _ hbad ↦ absurd hstatus hbad
      takeover_iff := ⟨summarised, rfl, hsummary,
        iff_of_true htakeover ⟨hstatus, Nat.eq_zero_of_not_pos hsome⟩⟩ }

/-- With the engine there and started, all that it says is shown and its result is adopted. -/
theorem result_generate_of_started
    (hclear : Bundle.clear session.files machine.working recipe.spec.outputPath =
      .ok (removed, cleared))
    (hpresent : cleared.pathExists machine.working project.engineProgram = true)
    (hlocate : locate machine cleared (engineCommand project recipe.spec) =
      .ok (directory, deed)) :
    ∃ shown : Session,
      shown.files = deed.apply directory cleared ∧
      session.Shows
        (fun color ↦ .ofText (Bundle.removalWords color recipe.spec.outputPath removed) ++
          deed.conduct.stdout)
        (fun color ↦ .ofText ((relay deed.conduct.stderr).flatMap (·.spelled color))) shown ∧
      (Bundle.generate machine.working recipe (engine machine project)).result session =
        (Bundle.adopt machine.working recipe (resultOf deed.conduct)).result shown := by
  refine ⟨_, ?_, ?_, Bundle.result_generate_of_answers hclear (result_check_of_present hpresent)
    (result_runDiagnosed (result_spawn_of_located hlocate))⟩
  · rfl
  · constructor <;> intro color
    · rw [Session.stdout_noting, stdout_relays, ← Bundle.stdout_removalNotice]
      simp [Session.stdout, Session.noting, Session.asking, Event.stdout]
    · rw [Session.stderr_noting, stderr_relays]
      simp [Session.stderr, Session.noting, Session.asking, Event.stderr,
        Bundle.stderr_removalNotice]

/-- With the engine there and started, the verdict is a matter of how many lines of its standard
error open an error and of its exit status, as `Judged` says. All records, one for each header line
and in their order, are on the standard error of the run by then, and nothing else has been added to
it but the lines that are passed on. -/
theorem verdict_of_stderr {errors warnings : Nat}
    (hclear : Bundle.clear session.files machine.working recipe.spec.outputPath =
      .ok (removed, cleared))
    (hpresent : cleared.pathExists machine.working project.engineProgram = true)
    (hlocate : locate machine cleared (engineCommand project recipe.spec) =
      .ok (directory, deed))
    (herrors : headerCount .error (offlineLines deed.conduct.stderr) = errors)
    (hwarnings : headerCount .warning (offlineLines deed.conduct.stderr) = warnings) :
    ∃ sent shown outcome after,
      (Bundle.generate machine.working recipe (engine machine project)).result session =
        (outcome, after) ∧
      ReadAs deed.conduct.stderr sent ∧
      (sent.filterMap Relay.record?).length = errors + warnings ∧
      shown.files = deed.apply directory cleared ∧
      session.Shows
        (fun color ↦ .ofText (Bundle.removalWords color recipe.spec.outputPath removed) ++
          deed.conduct.stdout)
        (fun color ↦ .ofText (sent.flatMap (·.spelled color))) shown ∧
      Judged machine.working recipe deed.conduct.status errors warnings shown outcome after := by
  obtain ⟨shown, hfiles, hshows, hgenerate⟩ :=
    result_generate_of_started hclear hpresent hlocate
  have hlength := length_records_resultOf deed.conduct
  rw [stderrLines_eq_offlineLines, herrors, hwarnings] at hlength
  exact ⟨relay deed.conduct.stderr, shown, _, _, hgenerate, readAs_relay deed.conduct.stderr,
    hlength, hfiles, hshows, judged_of_verdict herrors hwarnings
      (Bundle.verdict_adopt machine.working recipe (resultOf deed.conduct) shown)⟩

end

/-- An engine that ends with status 0 after a warning with a note and an error. -/
def complaining : Conduct where
  stderr := Octets.ofText "[WARNING] a\n  b\n\n✘ [ERROR] c".toList

def complainingFiles : FileTree :=
  FileTree.empty.plant ["t".toList, "node_modules".toList, ".bin".toList, "esbuild".toList]
    (.file [] (some complaining))

def complainingMachine : Machine where
  working := []
  programs := fun _ ↦ .absent

def complainingProject : Project where
  root := "/".toList
  toolDirectory := "/t".toList
  hostDirectory := "/h".toList
  entryPoint := "a.js".toList
  bundleFile := "b.js".toList

theorem verdict_of_stderr_complaining :
    Bundle.clear complainingFiles [] complainingProject.bundleSpec.outputPath =
      .ok (false, complainingFiles) ∧
    complainingFiles.pathExists [] complainingProject.engineProgram = true ∧
    locate complainingMachine complainingFiles
      (engineCommand complainingProject complainingProject.bundleSpec) =
      .ok (["t".toList], ⟨complaining, none⟩) ∧
    headerCount .error (offlineLines complaining.stderr) = 1 ∧
    headerCount .warning (offlineLines complaining.stderr) = 1 ∧
    ∃ after,
      (Bundle.generate [] { spec := complainingProject.bundleSpec }
        (engine complainingMachine complainingProject)).result ⟨complainingFiles, []⟩ =
        (.error (.bundle (.errorsReported 1)), after) ∧
      after.stderr false = "[WARN] a\n    b\n[ERROR] c\n".toUTF8.data.toList ∧
      after.stderr true =
        "\x1b[33m[WARN]\x1b[0m a\n    b\n\x1b[1;31m[ERROR]\x1b[0m c\n".toUTF8.data.toList := by
  have hclear : Bundle.clear complainingFiles [] complainingProject.bundleSpec.outputPath =
      .ok (false, complainingFiles) := rfl
  have hpresent : complainingFiles.pathExists [] complainingProject.engineProgram = true := rfl
  have hlocate : locate complainingMachine complainingFiles
      (engineCommand complainingProject complainingProject.bundleSpec) =
      .ok (["t".toList], ⟨complaining, none⟩) := rfl
  have herrors : headerCount .error (offlineLines complaining.stderr) = 1 := by decide
  have hwarnings : headerCount .warning (offlineLines complaining.stderr) = 1 := by decide
  have hblocks : blockRecords (offlineOperations complaining.stderr) =
      [⟨.warning, "a".toList, ["  b".toList]⟩, ⟨.error, "c".toList, []⟩] := by decide
  have hpassed : passedLines (offlineLines complaining.stderr) = [] := by decide
  obtain ⟨sent, shown, outcome, after, hresult, hreads, -, -, hshows, hjudged⟩ :=
    @verdict_of_stderr complainingMachine complainingProject
      { spec := complainingProject.bundleSpec } ⟨complainingFiles, []⟩ _ _ _ _ _ _
      hclear hpresent hlocate herrors hwarnings
  obtain ⟨-, _, rfl, rfl, -⟩ := hjudged.of_errors Nat.one_pos
  have hsent : sent = [.reported ⟨.warning, "a".toList, ["  b".toList]⟩,
      .reported ⟨.error, "c".toList, []⟩] := by
    rw [Relay.eq_map_reported (hreads.lines_eq.trans hpassed), hreads.records_eq, hblocks]
    rfl
  refine ⟨hclear, hpresent, hlocate, herrors, hwarnings, after, hresult, ?_, ?_⟩
  · rw [hjudged.quiet, hshows.stderr_eq, hsent]
    rfl
  · rw [hjudged.quiet, hshows.stderr_eq, hsent]
    rfl

end Toolchain

end ScriptEmbed
