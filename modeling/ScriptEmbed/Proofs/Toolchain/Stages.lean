import ScriptEmbed.Proofs.Files.Joining
import ScriptEmbed.Proofs.Tool.Performs
import ScriptEmbed.Proofs.Toolchain.Verdict

/-!
What each stage of the standard pipeline performs, put together from its steps: the commands that it
starts, and a relation between the files before it and after it. `performs_run` is the whole run,
five commands one after another and the composition of the three relations.
-/

set_option autoImplicit false
set_option relaxedAutoImplicit false

namespace ScriptEmbed

open Files Tool ScriptEmbed.Action

/-! ### What the stages perform -/

namespace Bundle

/-- What taking over what the engine left comes to. -/
def TakesOver (working : Place) (recipe : Recipe) (files : FileTree) (path : Path)
    (after : FileTree) : Prop :=
  path = recipe.spec.outputPath ∧ ∃ raw wrapped,
    files.readText working recipe.spec.outputPath = .ok raw ∧
      wrap raw recipe.signature recipe.placement = .ok wrapped ∧
      files.write working recipe.spec.outputPath (.ofText wrapped.text) = .ok after

/-- What adopting an engine's result comes to. -/
def Adopts (working : Place) (recipe : Recipe) (result : ToolResult) (files : FileTree)
    (path : Path) (after : FileTree) : Prop :=
  rejection? result = none ∧ TakesOver working recipe files path after

theorem isStart_removalNotice (path : Path) (removed : Bool) :
    (removalNotice path removed).filter Event.isStart = [] := by
  cases removed <;> rfl

theorem isStart_warningNotice (result : ToolResult) :
    (warningNotice result).filter Event.isStart = [] := by
  unfold warningNotice
  split <;> rfl

theorem isStart_layoutNotice (wrapped : Wrapped) :
    (layoutNotice wrapped).filter Event.isStart = [] := by
  unfold layoutNotice
  split <;> rfl

section

variable {machine : Machine} {working : Place} {recipe : Recipe} {engine : Engine}

theorem performs_removeStale (working : Place) (path : Path) :
    Performs machine []
      (fun files removed after ↦ clear files working path = .ok (removed, after))
      (removeStale working path) := by
  refine performs_of_quiet fun session ↦ ?_
  rw [result_removeStale]
  cases clear session.files working path with
  | error cause => exact ⟨_, _, rfl, rfl, by simp⟩
  | ok cleared => exact ⟨_, _, rfl, rfl, by simp [Prod.ext_iff, eq_comm]⟩

theorem performs_takeOver (working : Place) (recipe : Recipe) :
    Performs machine [] (TakesOver working recipe) (takeOver working recipe) := by
  refine performs_of_quiet fun session ↦ ?_
  have htakeover := takeover_takeOver working recipe session
  generalize (takeOver working recipe).result session = ending at htakeover
  cases htakeover with
  | unreadable hread => exact ⟨_, _, rfl, rfl, by simp [TakesOver, hread]⟩
  | unwrappable hread hwrap => exact ⟨_, _, rfl, rfl, by simp [TakesOver, hread, hwrap]⟩
  | unwritable hread hwrap hwrite =>
    exact ⟨_, _, rfl, by simp [isStart_layoutNotice], by simp [TakesOver, hread, hwrap, hwrite]⟩
  | written hread hwrap hwrite =>
    refine ⟨_, _, rfl, by simp [isStart_layoutNotice], ?_⟩
    simp [TakesOver, hread, hwrap, hwrite, eq_comm]

theorem performs_adopt (working : Place) (recipe : Recipe) (result : ToolResult) :
    Performs machine [] (Adopts working recipe result) (adopt working recipe result) := by
  unfold adopt
  cases hrejection : rejection? result with
  | some fault =>
    exact performs_of_quiet fun session ↦ ⟨_, _, rfl, rfl, by simp [Adopts, hrejection]⟩
  | none =>
    refine Performs.congr (performs_after_quiet (performs_happen (isStart_warningNotice result))
      fun _ ↦ performs_takeOver working recipe) ?_
    simp [Adopts, hrejection]

/-- Generating a bundle starts what the engine starts. -/
theorem performs_generate {checking bundling : List Command}
    {checks : FileTree → Unit → FileTree → Prop} {bundles : FileTree → ToolResult → FileTree → Prop}
    (hcheck : Performs machine checking checks (engine.check recipe.spec))
    (hbundle : Performs machine bundling bundles (engine.bundle recipe.spec)) :
    Performs machine (checking ++ bundling)
      (fun files path after ↦ ∃ removed cleared checked result bundled,
        clear files working recipe.spec.outputPath = .ok (removed, cleared) ∧
          checks cleared () checked ∧ bundles checked result bundled ∧
          Adopts working recipe result bundled path after)
      (generate working recipe engine) := by
  refine Performs.congr (performs_after_quiet (performs_removeStale working recipe.spec.outputPath)
    fun removed ↦ performs_after_quiet (performs_happen (isStart_removalNotice _ removed))
      fun _ ↦ performs_after_quiet (performs_ask _) fun _ ↦
        performs_bind (performs_blame _ hcheck) fun _ ↦ performs_after_quiet (performs_ask _)
          fun _ ↦ performs_before_quiet (performs_blame _ hbundle)
            fun result ↦ performs_adopt working recipe result) ?_
  intro files path after
  constructor
  · rintro ⟨removed, cleared, checked, result, bundled, hclear, hchecks, hbundles, hadopts⟩
    exact ⟨removed, cleared, hclear, (), _, rfl, (), _, rfl, (), checked, hchecks, (), _, rfl,
      result, bundled, hbundles, hadopts⟩
  · rintro ⟨removed, _, hclear, -, _, rfl, -, cleared, rfl, ⟨⟩, _, hchecks, -, checked, rfl,
      result, bundled, hbundles, hadopts⟩
    exact ⟨removed, cleared, checked, result, bundled, hclear, hchecks, hbundles, hadopts⟩

end

end Bundle

namespace Pipeline

theorem performs_attempt {α : Type} {machine : Machine} {checking working : List Command}
    {checks : FileTree → α → FileTree → Prop} {works : FileTree → ToolResult → FileTree → Prop}
    {check : Action Chain α} {work : Action Chain ToolResult} (first second : Request)
    (blame : ToolFault → Failure) (hcheck : Performs machine checking checks check)
    (hwork : Performs machine working works work) :
    Performs machine (checking ++ working)
      (fun files value after ↦ ∃ checked result, checks files value checked ∧
        works checked result after ∧ result.success = true)
      (attempt first second blame check work) := by
  refine Performs.congr (performs_after_quiet (performs_ask first) fun _ ↦
    performs_bind (performs_blame _ hcheck) fun value ↦ performs_after_quiet (performs_ask second)
      fun _ ↦ performs_before_quiet (performs_blame _ hwork) fun result ↦
        performs_unless result.success _ (performs_pure value)) ?_
  intro files value after
  constructor
  · rintro ⟨checked, result, hchecks, hworks, hsuccess⟩
    exact ⟨(), _, rfl, value, checked, hchecks, (), _, rfl, result, after, hworks, hsuccess, rfl,
      rfl⟩
  · rintro ⟨-, _, rfl, value, _, hchecks, -, checked, rfl, result, _, hworks, hsuccess, rfl, rfl⟩
    exact ⟨checked, result, hchecks, hworks, hsuccess⟩

end Pipeline

namespace Toolchain

/-! ### The commands of a run -/

def packageManagerProbe : Command where
  program := "npm".toList
  args := ["-v".toList]

def installCommand (root : Path) : Command where
  program := "npm".toList
  args := ["install".toList]
  directory := some (Path.join root "eslint".toList)

def bundleCommand (root : Path) : Command where
  program := Path.join root "eslint/node_modules/.bin/esbuild".toList
  args := ["./bin/eslint.js".toList, "--bundle".toList, "--format=iife".toList,
    "--platform=node".toList, "--legal-comments=none".toList, "--outfile=eslint_bundle.js".toList]
  directory := some (Path.join root "eslint".toList)

def hostCompilerProbe : Command where
  program := "cargo".toList
  args := ["--version".toList]

def buildCommand (root : Path) (profile : Profile) : Command where
  program := "cargo".toList
  args := match profile with
    | .debug => ["build".toList]
    | .release => ["build".toList, "--release".toList]
  directory := some (Path.join root "deno".toList)

/-- The commands of a whole run, in their order. -/
def commands (root : Path) (profile : Profile) : List Command :=
  [packageManagerProbe, installCommand root, bundleCommand root, hostCompilerProbe,
    buildCommand root profile]

theorem engineProgram_ofRoot (root : Path) : (Project.ofRoot root).engineProgram =
    Path.join root "eslint/node_modules/.bin/esbuild".toList := by
  rw [Project.engineProgram, Path.join_assoc, Path.join_assoc, Project.ofRoot, Path.join_assoc]
  rfl

theorem bundlePath_ofRoot (root : Path) : (Project.ofRoot root).bundlePath =
    Path.join root "eslint/eslint_bundle.js".toList := by
  rw [Project.bundlePath, Project.ofRoot, Path.join_assoc]
  rfl

theorem engineCommand_ofRoot (root : Path) :
    engineCommand (.ofRoot root) (Project.ofRoot root).bundleSpec = bundleCommand root := by
  rw [engineCommand, engineProgram_ofRoot]
  rfl

theorem engine_ofRoot (machine : Machine) (root : Path) :
    (engine machine (.ofRoot root)).bundle (Project.ofRoot root).bundleSpec =
      runDiagnosed machine (bundleCommand root) := by
  rw [← engineCommand_ofRoot]
  rfl

theorem build_ofRoot (machine : Machine) (root : Path) (profile : Profile) :
    (host machine (.ofRoot root)).build profile =
      runShared machine (buildCommand root profile) := by
  cases profile <;> rfl

section

variable {machine : Machine}

/-- That a command can be started. -/
def Starts (machine : Machine) (command : Command) (files : FileTree) : Prop :=
  ∃ located, locate machine files command = .ok located

/-- What running a command comes to that has to end with status 0. -/
def Succeeds (machine : Machine) (command : Command) (files after : FileTree) : Prop :=
  ∃ directory deed, locate machine files command = .ok (directory, deed) ∧
    deed.conduct.status = .code 0 ∧ after = deed.apply directory files

theorem isSuccess_iff (status : ExitStatus) : status.isSuccess = true ↔ status = .code 0 :=
  beq_iff_eq

/-- A command that shares its streams has succeeded if its status is 0. -/
theorem succeeds_iff_runs {command : Command} {files after : FileTree} :
    Succeeds machine command files after ↔
      ∃ result, Runs machine command (fun conduct ↦ ⟨conduct.status.isSuccess, []⟩) files result
        after ∧ result.success = true := by
  constructor
  · rintro ⟨directory, deed, hlocate, hstatus, hafter⟩
    exact ⟨_, ⟨directory, deed, hlocate, rfl, hafter⟩, (isSuccess_iff _).mpr hstatus⟩
  · rintro ⟨_, ⟨directory, deed, hlocate, rfl, hafter⟩, hsuccess⟩
    exact ⟨directory, deed, hlocate, (isSuccess_iff _).mp hsuccess, hafter⟩

theorem isStart_engineNotice (manifest : Manifest) :
    [manifest.engineNotice].filter Event.isStart = [] := by
  unfold Manifest.engineNotice
  split <;> rfl

theorem result_checkManifest (working : Place) (directory : Path) (session : Session) :
    (Manifest.check working directory).result session =
      match Manifest.load session.files working directory with
      | .ok manifest => (.ok manifest, session.noting [manifest.engineNotice])
      | .error fault => (.error fault, session) := by
  have hfirst := result_orFail (Manifest.load session.files working directory) session
  unfold Manifest.check
  rw [result_bind_of_ok (result_get session)]
  cases hload : Manifest.load session.files working directory with
  | ok manifest =>
    rw [hload] at hfirst
    exact result_bind_of_ok hfirst
  | error fault =>
    rw [hload] at hfirst
    exact result_bind_of_error hfirst

theorem performs_checkManifest (working : Place) (directory : Path) :
    Performs machine []
      (fun files manifest after ↦ Manifest.load files working directory = .ok manifest ∧
        after = files)
      (Manifest.check working directory) := by
  refine performs_of_quiet fun session ↦ ?_
  rw [result_checkManifest]
  cases Manifest.load session.files working directory with
  | error fault => exact ⟨_, _, rfl, rfl, by simp⟩
  | ok manifest => exact ⟨_, _, rfl, by simp [isStart_engineNotice], by simp⟩

theorem performs_install (machine : Machine) (root : Path) (placement : Bundle.Placement) :
    Performs machine [packageManagerProbe, installCommand root]
      (fun files manifest installed ↦
        Manifest.load files machine.working (Path.join root "eslint".toList) = .ok manifest ∧
          Starts machine packageManagerProbe files ∧
          Succeeds machine (installCommand root) files installed)
      (pipeline machine (.ofRoot root) placement).install := by
  have hcheck : Performs machine [packageManagerProbe] _
      (installer machine (.ofRoot root)).check :=
    performs_after_quiet (performs_blame _ (performs_checkManifest _ _)) fun manifest ↦
      performs_before_quiet (performs_probe machine packageManagerAdvice packageManagerProbe)
        fun _ ↦ performs_pure manifest
  refine Performs.congr (performs_after_quiet (performs_announce _ _) fun _ ↦
    Pipeline.performs_attempt _ _ _ hcheck (performs_runShared machine (installCommand root))) ?_
  intro files manifest installed
  rw [succeeds_iff_runs]
  constructor
  · rintro ⟨hload, hstarts, result, hruns, hsuccess⟩
    exact ⟨(), _, rfl, _, result, ⟨manifest, _, ⟨hload, rfl⟩, (), _, ⟨hstarts, rfl⟩, rfl, rfl⟩,
      hruns, hsuccess⟩
  · rintro ⟨-, _, rfl, _, result, ⟨_, _, ⟨hload, rfl⟩, -, _, ⟨hstarts, rfl⟩, rfl, rfl⟩, hruns,
      hsuccess⟩
    exact ⟨hload, hstarts, result, hruns, hsuccess⟩

theorem performs_checkEngine (machine : Machine) (project : Project) (spec : Bundle.Spec) :
    Performs machine []
      (fun files _ after ↦ files.pathExists machine.working project.engineProgram = true ∧
        after = files)
      ((engine machine project).check spec) := by
  refine performs_of_quiet fun session ↦ ?_
  unfold engine
  dsimp only
  rw [result_bind_of_ok (result_get session)]
  by_cases hpresent : session.files.pathExists machine.working project.engineProgram = true
  · rw [if_pos hpresent]
    exact ⟨_, _, rfl, rfl, by simp [hpresent]⟩
  · rw [if_neg hpresent]
    exact ⟨_, _, rfl, rfl, by simp [hpresent]⟩

/-- What the bundle stage comes to. -/
def Bundles (machine : Machine) (root : Path) (placement : Bundle.Placement)
    (files : FileTree) (path : Path) (written : FileTree) : Prop :=
  ∃ removed cleared result bundled,
    Bundle.clear files machine.working (Path.join root "eslint/eslint_bundle.js".toList) =
        .ok (removed, cleared) ∧
      cleared.pathExists machine.working
        (Path.join root "eslint/node_modules/.bin/esbuild".toList) = true ∧
      Runs machine (bundleCommand root) resultOf cleared result bundled ∧
      Bundle.Adopts machine.working (pipeline machine (.ofRoot root) placement).recipe result
        bundled path written

theorem performs_bundle (machine : Machine) (root : Path) (placement : Bundle.Placement)
    (manifest : Manifest) :
    Performs machine [bundleCommand root] (Bundles machine root placement)
      ((pipeline machine (.ofRoot root) placement).bundle machine.working manifest) := by
  have hengine := performs_runDiagnosed machine (bundleCommand root)
  rw [← engine_ofRoot] at hengine
  refine Performs.congr (performs_after_quiet (performs_announce _ _) fun _ ↦
    performs_before_quiet (Bundle.performs_generate (performs_checkEngine machine _ _) hengine)
      fun path ↦ performs_after_quiet (performs_announce _ _) fun _ ↦ performs_pure path) ?_
  intro files path written
  rw [Bundles, ← engineProgram_ofRoot, ← bundlePath_ofRoot]
  constructor
  · rintro ⟨removed, cleared, result, bundled, hclear, hpresent, hruns, hadopts⟩
    exact ⟨(), _, rfl, path, written, ⟨removed, cleared, _, result, bundled, hclear,
      ⟨hpresent, rfl⟩, hruns, hadopts⟩, (), _, rfl, rfl, rfl⟩
  · rintro ⟨-, _, rfl, _, _, ⟨removed, cleared, _, result, bundled, hclear, ⟨hpresent, rfl⟩, hruns,
      hadopts⟩, -, _, rfl, rfl, rfl⟩
    exact ⟨removed, _, result, bundled, hclear, hpresent, hruns, hadopts⟩

theorem performs_buildHost (machine : Machine) (root : Path) (placement : Bundle.Placement)
    (profile : Profile) :
    Performs machine [hostCompilerProbe, buildCommand root profile]
      (fun files _ built ↦ Starts machine hostCompilerProbe files ∧
        Succeeds machine (buildCommand root profile) files built)
      ((pipeline machine (.ofRoot root) placement).buildHost profile) := by
  have hbuild := performs_runShared machine (buildCommand root profile)
  rw [← build_ofRoot] at hbuild
  refine Performs.congr (performs_after_quiet (performs_announce _ _) fun _ ↦
    Pipeline.performs_attempt _ _ _ (performs_probe machine hostCompilerAdvice hostCompilerProbe)
      hbuild) ?_
  intro files _ built
  rw [succeeds_iff_runs]
  constructor
  · rintro ⟨hstarts, result, hruns, hsuccess⟩
    exact ⟨(), _, rfl, _, result, ⟨hstarts, rfl⟩, hruns, hsuccess⟩
  · rintro ⟨-, _, rfl, _, result, ⟨hstarts, rfl⟩, hruns, hsuccess⟩
    exact ⟨hstarts, result, hruns, hsuccess⟩

theorem performs_run (machine : Machine) (root : Path) (placement : Bundle.Placement)
    (profile : Profile) :
    Performs machine (commands root profile)
      (fun files report built ↦ ∃ manifest installed path written,
        (Manifest.load files machine.working (Path.join root "eslint".toList) = .ok manifest ∧
          Starts machine packageManagerProbe files ∧
          Succeeds machine (installCommand root) files installed) ∧
        Bundles machine root placement installed path written ∧
        (Starts machine hostCompilerProbe written ∧
          Succeeds machine (buildCommand root profile) written built) ∧
        report = ⟨manifest.label, path, (Project.ofRoot root).hostOutputDirectory profile⟩)
      ((pipeline machine (.ofRoot root) placement).run machine.working profile) := by
  refine Performs.congr (performs_bind (performs_install machine root placement) fun manifest ↦
    performs_bind (performs_bundle machine root placement manifest) fun path ↦
      performs_before_quiet (performs_buildHost machine root placement profile) fun _ ↦
        performs_pure _) ?_
  intro files report built
  constructor
  · rintro ⟨manifest, installed, path, written, hinstall, hbundles, hbuilds, rfl⟩
    exact ⟨manifest, installed, hinstall, path, written, hbundles, (), built, hbuilds, rfl, rfl⟩
  · rintro ⟨manifest, installed, hinstall, path, written, hbundles, -, _, hbuilds, rfl, rfl⟩
    exact ⟨manifest, installed, path, written, hinstall, hbundles, hbuilds, rfl⟩

end

end Toolchain

end ScriptEmbed
