import Mathlib.Tactic.ByContra
import Mathlib.Tactic.SplitIfs
import ScriptEmbed.Proofs.Bundle.Artifact
import ScriptEmbed.Proofs.Manifest.Faithful
import ScriptEmbed.Proofs.Toolchain.Stages

/-!
When a run of the standard pipeline succeeds, and which programs it starts. Under an absolute root
the relations that the stages perform come down to the conditions `Installs`, `Generates` and
`Builds`, since a manifest that can be loaded has the tool's directory above it (`installs_iff`), an
engine that can be started has it too, and what the engine leaves there is what is found at the
cleared output path (`generates_iff`).
-/

set_option autoImplicit false
set_option relaxedAutoImplicit false

namespace ScriptEmbed

open Files Tool ScriptEmbed.Action

namespace Toolchain

/-! ### Commands that can be started -/

/-- A program that is found by its name, and arguments without a NUL. -/
structure ByName (program : Text) (args : List Text) : Prop where
  slash : program.contains '/' = false
  dots : ¬ (program = Path.here ∨ program = Path.up)
  short : FileTree.nameIsTooLong program = false
  program_nul : hasNul program = false
  args_nul : args.any hasNul = false

theorem byName_npm {args : List Text} (h : args.any hasNul = false) :
    ByName "npm".toList args := ⟨by decide, by decide, by decide, by decide, h⟩

theorem byName_cargo {args : List Text} (h : args.any hasNul = false) :
    ByName "cargo".toList args := ⟨by decide, by decide, by decide, by decide, h⟩

theorem byName_build (root : Path) (profile : Profile) :
    ByName (buildCommand root profile).program (buildCommand root profile).args := by
  cases profile <;> exact byName_cargo rfl

section

variable {machine : Machine} {root path : Path} {placement : Bundle.Placement}
variable {files cleared after : FileTree} {directory working : Place} {deed : Deed}

theorem findProgram_of_byName {program : Text} {args : List Text} (h : ByName program args) :
    findProgram machine files directory program = .ok deed ↔
      machine.programs program = .present deed := by
  unfold findProgram
  rw [if_neg (by simpa using h.slash), if_neg h.dots, if_neg (by simp [h.short])]
  cases machine.programs program <;> simp

theorem hasNul_of_resolve {place : Place} (h : files.resolve working path = .ok place) :
    hasNul path = false :=
  (FileTree.checkPath_eq_ok_iff.mp (FileTree.resolve_eq_ok_iff_walk.mp h).1).1

theorem locate_of_byName {command : Command} (h : ByName command.program command.args) :
    locate machine files command = .ok (directory, deed) ↔
      command.startsIn machine files = .ok directory ∧
        machine.programs command.program = .present deed := by
  rw [locate_eq_ok_iff, findProgram_of_byName h]
  refine ⟨fun hlocate ↦ hlocate.2, fun hstarts ↦ ⟨?_, hstarts⟩⟩
  rw [Command.anyNul, h.program_nul, h.args_nul, Bool.false_or, Bool.false_or]
  obtain ⟨program, args, _ | path⟩ := command
  · rfl
  · exact hasNul_of_resolve (FileTree.workingDirectory_eq_ok_iff.mp hstarts.1).1

/-- Where a manifest is loaded from, there is a directory. -/
theorem workingDirectory_of_load {manifest : Manifest} (hpath : path ≠ [])
    (hload : Manifest.load files working path = .ok manifest) :
    files.workingDirectory working path = .ok (Path.destination working path) := by
  have hname : Path.IsName Manifest.fileName := ⟨by decide, by decide⟩
  cases hresolve : files.resolve working (Path.join path Manifest.fileName) with
  | error cause => simp [Manifest.load, FileTree.pathExists, hresolve] at hload
  | ok place => exact FileTree.workingDirectory_of_resolve hpath hname hresolve

/-! ### The conditions -/

/-- The manifest can be loaded, and the package manager can be started and ends its installation
with status 0, which leaves these files. -/
structure Installs (machine : Machine) (root : Path) (files : FileTree) (npm : Deed)
    (installed : FileTree) : Prop where
  loads : ∃ manifest,
    Manifest.load files machine.working (Path.join root "eslint".toList) = .ok manifest
  present : machine.programs "npm".toList = .present npm
  succeeds : npm.conduct.status = .code 0
  installed_eq :
    installed = npm.apply (Path.destination machine.working (Path.join root "eslint".toList)) files

/-- What was at the output path can be removed; then the engine is there and can be started, it ends
with status 0 and no line of its standard error opens an error; and the bundle that it leaves is a
text that can be wrapped, which leaves these files. -/
def Generates (machine : Machine) (root : Path) (placement : Bundle.Placement)
    (installed : FileTree) (esbuild : Conduct) (written : FileTree) : Prop :=
  ∃ removed cleared contents raw wrapped,
    Bundle.clear installed machine.working (Path.join root "eslint/eslint_bundle.js".toList) =
        .ok (removed, cleared) ∧
      cleared.program machine.working
        (Path.join root "eslint/node_modules/.bin/esbuild".toList) = .ok esbuild ∧
      esbuild.status = .code 0 ∧
      Diagnostic.headerCount .error (Diagnostic.offlineLines esbuild.stderr) = 0 ∧
      esbuild.artifact = some contents ∧ contents.toText? = some raw ∧
      Bundle.wrap raw .standard placement = .ok wrapped ∧
      written = cleared.update
        (Path.destination machine.working (Path.join root "eslint".toList) ++
          ["eslint_bundle.js".toList])
        (some (.file (.ofText wrapped.text) none))

/-- The compiler can be started, the host's directory is there, and the build ends with status 0. -/
structure Builds (machine : Machine) (root : Path) (written : FileTree) (cargo : Deed) : Prop where
  present : machine.programs "cargo".toList = .present cargo
  directory : ∃ place,
    written.workingDirectory machine.working (Path.join root "deno".toList) = .ok place
  succeeds : cargo.conduct.status = .code 0

theorem isName_toolDirectoryName : Path.IsName Project.toolDirectoryName :=
  ⟨by decide, by decide⟩

theorem isAbsolute_toolDirectory (h : root.isAbsolute = true) :
    (Path.join root "eslint".toList).isAbsolute = true :=
  (Path.isAbsolute_join isName_toolDirectoryName.relative root).trans h

theorem installs_iff (hroot : root.isAbsolute = true) :
    (∃ manifest,
      Manifest.load files machine.working (Path.join root "eslint".toList) = .ok manifest ∧
        Starts machine packageManagerProbe files ∧
        Succeeds machine (installCommand root) files after) ↔
    ∃ npm, Installs machine root files npm after := by
  have htool := Path.ne_nil_of_isAbsolute (isAbsolute_toolDirectory hroot)
  have hname : ByName "npm".toList ["install".toList] := byName_npm (by decide)
  have hlocate := fun directory deed ↦
    @locate_of_byName machine files directory deed (installCommand root) hname
  constructor
  · rintro ⟨manifest, hload, -, directory, npm, hstart, hstatus, rfl⟩
    obtain ⟨hdirectory, hpresent⟩ := (hlocate directory npm).mp hstart
    have hplace := workingDirectory_of_load htool hload
    obtain rfl := Except.ok.inj (hdirectory.symm.trans hplace)
    exact ⟨npm, ⟨manifest, hload⟩, hpresent, hstatus, rfl⟩
  · rintro ⟨npm, ⟨manifest, hload⟩, hpresent, hstatus, rfl⟩
    refine ⟨manifest, hload, ⟨(machine.working, npm), ?_⟩, _, npm, (hlocate _ _).mpr
      ⟨workingDirectory_of_load htool hload, hpresent⟩, hstatus, rfl⟩
    have hprobe : ByName "npm".toList ["-v".toList] := byName_npm (by decide)
    exact (@locate_of_byName _ _ _ _ packageManagerProbe hprobe).mpr ⟨rfl, hpresent⟩

theorem builds_iff {profile : Profile} :
    (∃ built, Starts machine hostCompilerProbe files ∧
      Succeeds machine (buildCommand root profile) files built) ↔
    ∃ cargo, Builds machine root files cargo := by
  have hlocate := fun directory deed ↦
    @locate_of_byName machine files directory deed (buildCommand root profile)
      (byName_build root profile)
  constructor
  · rintro ⟨_, -, directory, cargo, hstart, hstatus, rfl⟩
    obtain ⟨hdirectory, hpresent⟩ := (hlocate directory cargo).mp hstart
    exact ⟨cargo, hpresent, ⟨directory, hdirectory⟩, hstatus⟩
  · rintro ⟨cargo, hpresent, ⟨directory, hdirectory⟩, hstatus⟩
    refine ⟨_, ⟨(machine.working, cargo), ?_⟩, directory, cargo, (hlocate _ _).mpr
      ⟨hdirectory, hpresent⟩, hstatus, rfl⟩
    have hprobe : ByName "cargo".toList ["--version".toList] := byName_cargo (by decide)
    exact (@locate_of_byName _ _ _ _ hostCompilerProbe hprobe).mpr ⟨rfl, hpresent⟩

/-! ### The engine and its bundle -/

/-- The engine is in the tool's directory. -/
theorem workingDirectory_of_engine {place : Place} (hroot : root.isAbsolute = true)
    (h : files.resolve working (Path.join root "eslint/node_modules/.bin/esbuild".toList) =
      .ok place) :
    files.workingDirectory working (Path.join root "eslint".toList) =
      .ok (Path.destination working (Path.join root "eslint".toList)) := by
  have htool := Path.ne_nil_of_isAbsolute (isAbsolute_toolDirectory hroot)
  have hmodules : Path.IsName "node_modules".toList := ⟨by decide, by decide⟩
  have hbin : Path.IsName ".bin".toList := ⟨by decide, by decide⟩
  have hname : Path.IsName "esbuild".toList := ⟨by decide, by decide⟩
  have hmodules' := Path.join_ne_nil htool hmodules.relative
  rw [← engineProgram_ofRoot] at h
  have hupper := FileTree.workingDirectory_of_resolve
    (Path.join_ne_nil hmodules' hbin.relative) hname h
  have hmiddle := FileTree.workingDirectory_of_resolve hmodules' hbin
    (FileTree.workingDirectory_eq_ok_iff.mp hupper).1
  exact FileTree.workingDirectory_of_resolve htool hmodules
    (FileTree.workingDirectory_eq_ok_iff.mp hmiddle).1

theorem locate_bundleCommand (hroot : root.isAbsolute = true) :
    locate machine files (bundleCommand root) = .ok (directory, deed) ↔
      ∃ conduct,
        files.program machine.working (Path.join root "eslint/node_modules/.bin/esbuild".toList) =
          .ok conduct ∧
        directory = Path.destination machine.working (Path.join root "eslint".toList) ∧
        deed = ⟨conduct, none⟩ := by
  have hrelative : Path.isAbsolute "eslint/node_modules/.bin/esbuild".toList = false := by decide
  have habsolute : Path.isAbsolute (bundleCommand root).program = true :=
    (Path.isAbsolute_join hrelative root).trans hroot
  have hprogram_iff : findProgram machine files directory (bundleCommand root).program = .ok deed ↔
      ∃ conduct, files.program machine.working (bundleCommand root).program = .ok conduct ∧
        deed = ⟨conduct, none⟩ := by
    unfold findProgram
    rw [if_pos (Path.contains_slash_of_isAbsolute habsolute),
      FileTree.program_of_isAbsolute habsolute machine.working]
    cases files.program machine.working (bundleCommand root).program <;>
      simp [Except.map, eq_comm]
  rw [locate_eq_ok_iff]
  constructor
  · rintro ⟨-, hdirectory, hfound⟩
    obtain ⟨conduct, hprogram, hdeed⟩ := hprogram_iff.mp hfound
    have hresolve := (FileTree.workingDirectory_eq_ok_iff.mp hdirectory).1
    exact ⟨conduct, hprogram, FileTree.destination_of_resolve hresolve, hdeed⟩
  · rintro ⟨conduct, hprogram, rfl, hdeed⟩
    obtain ⟨place, hresolve⟩ := FileTree.resolve_of_program hprogram
    have hdirectory := workingDirectory_of_engine hroot hresolve
    refine ⟨?_, hdirectory, hprogram_iff.mpr ⟨conduct, hprogram, hdeed⟩⟩
    have hprogram_nul : hasNul (bundleCommand root).program = false := hasNul_of_resolve hresolve
    have hargs_nul : (bundleCommand root).args.any hasNul = false := rfl
    rw [Command.anyNul, hprogram_nul, hargs_nul, Bool.false_or, Bool.false_or]
    exact hasNul_of_resolve (FileTree.workingDirectory_eq_ok_iff.mp hdirectory).1

theorem checkPath_of_clear {removed : Bool} (hpath : path ≠ [])
    (h : Bundle.clear files working path = .ok (removed, cleared)) :
    FileTree.checkPath path = .ok () := by
  cases hcheck : FileTree.checkPath path with
  | ok _ => rfl
  | error cause =>
    have hcause : cause ≠ .notFound := by
      rintro rfl
      have hempty : path.isEmpty = false := by simpa using hpath
      unfold FileTree.checkPath at hcheck
      simp only [hempty, Bool.false_eq_true, ↓reduceIte] at hcheck
      split_ifs at hcheck
      · exact absurd (Except.error.inj hcheck) (by decide)
      · exact absurd (Except.error.inj hcheck) (by decide)
    have hremove : files.remove working path = .error cause := by
      rw [FileTree.remove, FileTree.resolveParent, hcheck]
      rfl
    simp [Bundle.clear, hremove, hcause] at h

theorem isName_artifactName : Path.IsName Bundle.artifactName := ⟨by decide, by decide⟩

theorem short_artifactName : FileTree.nameIsTooLong Bundle.artifactName = false := by decide

/-- With the output path cleared and its directory there, the directory and the last name of the
output path are known, and nothing is there. -/
theorem slot_of_clear {removed : Bool} {tool : Path} (htool : tool ≠ [])
    (hclear : Bundle.clear files working (Path.join tool Bundle.artifactName) =
      .ok (removed, cleared))
    (hdirectory : cleared.workingDirectory working tool = .ok directory) :
    cleared.resolveParent working (Path.join tool Bundle.artifactName) =
        .ok (directory, some Bundle.artifactName) ∧
      cleared.at? (directory ++ [Bundle.artifactName]) = none := by
  have hnowhere := Bundle.pathExists_of_clear hclear
  have hparent := FileTree.resolveParent_join_name isName_artifactName (by decide) (by decide)
    (checkPath_of_clear (Path.join_ne_nil htool isName_artifactName.relative) hclear) hdirectory
  refine ⟨hparent, ?_⟩
  by_contra hsome
  have hslash := isName_artifactName.endsInSlash_join tool
  refine FileTree.pathExists_eq_false_iff.mp hnowhere _ ((FileTree.resolve_eq_ok_iff hparent).mpr
    ⟨rfl, short_artifactName, Option.isSome_iff_ne_none.mpr hsome, ?_⟩)
  intro h
  rw [hslash] at h
  cases h

/-- Where nothing is in its way, the engine's artifact is written as any file is. -/
theorem write_apply {contents : Octets} {esbuild : Conduct}
    (hslash : path.endsInSlash = false)
    (hparent : cleared.resolveParent working path = .ok (directory, some Bundle.artifactName))
    (hnothing : cleared.at? (directory ++ [Bundle.artifactName]) = none)
    (hartifact : esbuild.artifact = some contents) :
    cleared.write working path contents =
      .ok ((⟨esbuild, none⟩ : Deed).apply directory cleared) := by
  have hfree : cleared.isDirectory (directory ++ [Bundle.artifactName]) = false := by
    simp [FileTree.isDirectory, hnothing]
  rw [FileTree.write_of_parent hparent hslash short_artifactName (by simp [hnothing])]
  simp [Deed.apply, hartifact, leaveArtifact, hfree]

theorem rejection?_eq_none_iff_conduct (esbuild : Conduct) :
    Bundle.rejection? (resultOf esbuild) = none ↔ esbuild.status = .code 0 ∧
      Diagnostic.headerCount .error (Diagnostic.offlineLines esbuild.stderr) = 0 := by
  rw [rejection?_resultOf]
  by_cases herrors : 0 < Diagnostic.headerCount .error (Diagnostic.offlineLines esbuild.stderr)
  · rw [if_pos herrors]
    simp [Nat.ne_of_gt herrors]
  · rw [if_neg herrors]
    by_cases hstatus : esbuild.status = .code 0
    · simp [hstatus, Nat.eq_zero_of_not_pos herrors]
    · simp [hstatus]

theorem generates_iff (hroot : root.isAbsolute = true) :
    (∃ path, Bundles machine root placement files path after) ↔
      ∃ esbuild, Generates machine root placement files esbuild after := by
  have htool := Path.ne_nil_of_isAbsolute (isAbsolute_toolDirectory hroot)
  have hslash : (Project.ofRoot root).bundlePath.endsInSlash = false :=
    isName_artifactName.endsInSlash_join _
  unfold Bundles Generates
  rw [← bundlePath_ofRoot]
  constructor
  · rintro ⟨_, removed, cleared, _, _, hclear, hpresent, ⟨directory, deed, hlocate, rfl, rfl⟩,
      haccepted, rfl, raw, wrapped, hread, hwrap, hwrite⟩
    obtain ⟨esbuild, hprogram, rfl, rfl⟩ := (locate_bundleCommand hroot).mp hlocate
    obtain ⟨hstatus, herrors⟩ := (rejection?_eq_none_iff_conduct esbuild).mp haccepted
    obtain ⟨_, hresolve⟩ := FileTree.resolve_of_program hprogram
    obtain ⟨hparent, hnothing⟩ :=
      slot_of_clear htool hclear (workingDirectory_of_engine hroot hresolve)
    have hfree := hnothing.trans_ne (Option.some_ne_none Entry.directory).symm
    obtain ⟨found, hfound, htext⟩ := FileTree.readText_eq_ok_iff.mp hread
    cases hartifact : esbuild.artifact with
    | none =>
      -- the engine has left nothing, and the path was cleared: there is nothing to read
      simp only [Deed.apply, hartifact] at hfound
      obtain ⟨_, _, hplace, -⟩ := FileTree.read_eq_ok_iff.mp hfound
      have hnowhere := FileTree.pathExists_eq_false_iff.mp (Bundle.pathExists_of_clear hclear)
      exact (hnowhere _ hplace).elim
    | some contents =>
      -- the artifact stands at the path as if it had been written there
      have hleft := write_apply hslash hparent hnothing hartifact
      obtain rfl := Except.ok.inj (hfound.symm.trans (FileTree.read_of_write hleft))
      have hagain := (FileTree.write_write hleft (.ofText wrapped.text)).trans
        (FileTree.write_of_parent hparent hslash short_artifactName hfree)
      exact ⟨esbuild, removed, cleared, found, raw, wrapped, hclear, hprogram, hstatus, herrors,
        hartifact, htext, hwrap, Except.ok.inj (hwrite.symm.trans hagain)⟩
  · rintro ⟨esbuild, removed, cleared, contents, raw, wrapped, hclear, hprogram, hstatus, herrors,
      hartifact, htext, hwrap, rfl⟩
    obtain ⟨place, hresolve⟩ := FileTree.resolve_of_program hprogram
    obtain ⟨hparent, hnothing⟩ :=
      slot_of_clear htool hclear (workingDirectory_of_engine hroot hresolve)
    have hfree := hnothing.trans_ne (Option.some_ne_none Entry.directory).symm
    have hleft := write_apply hslash hparent hnothing hartifact
    have hpresent : cleared.pathExists machine.working
        (Path.join root "eslint/node_modules/.bin/esbuild".toList) = true := by
      rw [FileTree.pathExists, hresolve]
    refine ⟨(Project.ofRoot root).bundlePath, removed, cleared, _, _, hclear, hpresent,
      ⟨_, _, (locate_bundleCommand hroot).mpr ⟨esbuild, hprogram, rfl, rfl⟩, rfl, rfl⟩,
      (rejection?_eq_none_iff_conduct esbuild).mpr ⟨hstatus, herrors⟩, rfl, raw, wrapped,
      FileTree.readText_eq_ok_iff.mpr ⟨contents, FileTree.read_of_write hleft, htext⟩, hwrap, ?_⟩
    exact (FileTree.write_write hleft _).trans
      (FileTree.write_of_parent hparent hslash short_artifactName hfree)

/-! ### A run under an absolute root -/

/-- Without a manifest, a run starts nothing. -/
theorem starts_of_unloadable {session : Session}
    (h : ∀ manifest, Manifest.load session.files machine.working
      (Path.join root "eslint".toList) ≠ .ok manifest)
    (placement : Bundle.Placement) (profile : Profile) :
    (((pipeline machine (.ofRoot root) placement).run machine.working profile).result
      session).2.starts = session.starts := by
  cases hload : Manifest.load session.files machine.working (Path.join root "eslint".toList) with
  | ok manifest => exact (h manifest hload).elim
  | error fault =>
    let asked := (session.noting
      [.announced .build "Installing npm dependencies".toList]).asking .checkInstaller
    have hmanifest : (Manifest.check machine.working (Path.join root "eslint".toList)).result
        asked = (.error fault, asked) := by
      have hsame : asked.files = session.files := rfl
      rw [result_checkManifest, hsame, hload]
    have hcheck : (installer machine (.ofRoot root)).check.result asked =
        (.error fault.chain, asked) :=
      result_bind_of_error (result_blame_of_error hmanifest)
    have hinstall : (pipeline machine (.ofRoot root) placement).install.result session =
        (.error (.install (.unable fault.chain)), asked) := by
      unfold Pipeline.install Pipeline.attempt
      rw [result_bind_of_ok (result_announce _ _ _), result_bind_of_ok (result_ask _ _)]
      exact result_bind_of_error (result_blame_of_error hcheck)
    unfold Pipeline.run
    rw [result_bind_of_error hinstall]
    simp [asked, Event.isStart]

/-- Which programs a run starts, and when it succeeds. The commands are started in their order until
the first failure, none if the manifest cannot be loaded and all of them in a run that succeeds. It
succeeds exactly if the installation, the bundle and the build of the host all do, each on the files
that the one before it has left. -/
theorem run_succeeds_iff (machine : Machine) (placement : Bundle.Placement) (profile : Profile)
    (session : Session) (hroot : root.isAbsolute = true) :
    ∃ outcome after spawned,
      ((pipeline machine (.ofRoot root) placement).run machine.working profile).result session =
        (outcome, after) ∧
      after.starts = session.starts ++ spawned.map (·.event machine) ∧
      spawned <+: commands root profile ∧
      ((∀ manifest, Manifest.load session.files machine.working
        (Path.join root "eslint".toList) ≠ .ok manifest) → spawned = []) ∧
      ((∃ report, outcome = .ok report) → spawned = commands root profile) ∧
      ((∃ report, outcome = .ok report) ↔ ∃ npm installed esbuild written cargo,
        Installs machine root session.files npm installed ∧
          Generates machine root placement installed esbuild written ∧
          Builds machine root written cargo) := by
  obtain ⟨outcome, after, spawned, hrun, hstarts, hfront, hall, hreaches⟩ :=
    performs_run machine root placement profile session
  refine ⟨outcome, after, spawned, hrun, hstarts, hfront, ?_, ?_, ?_⟩
  · intro hunloadable
    have hnone := starts_of_unloadable hunloadable placement profile
    rw [hrun, hstarts] at hnone
    simpa using hnone
  · rintro ⟨report, hreport⟩
    exact hall report hreport
  · constructor
    · rintro ⟨report, hreport⟩
      obtain ⟨manifest, installed, path, written, hinstall, hbundles, hbuilds, -⟩ :=
        (hreaches report after.files).mpr ⟨hreport, rfl⟩
      obtain ⟨npm, hinstalls⟩ := (installs_iff hroot).mp ⟨manifest, hinstall⟩
      obtain ⟨esbuild, hgenerates⟩ := (generates_iff hroot).mp ⟨path, hbundles⟩
      obtain ⟨cargo, hbuild⟩ := builds_iff.mp ⟨after.files, hbuilds⟩
      exact ⟨npm, installed, esbuild, written, cargo, hinstalls, hgenerates, hbuild⟩
    · rintro ⟨npm, installed, esbuild, written, cargo, hinstalls, hgenerates, hbuild⟩
      obtain ⟨manifest, hinstall⟩ := (installs_iff hroot).mpr ⟨npm, hinstalls⟩
      obtain ⟨path, hbundles⟩ := (generates_iff hroot).mpr ⟨esbuild, hgenerates⟩
      obtain ⟨built, hbuilds⟩ := (@builds_iff _ _ _ profile).mpr ⟨cargo, hbuild⟩
      have hreached := (hreaches _ built).mp
        ⟨manifest, installed, path, written, hinstall, hbundles, hbuilds, rfl⟩
      exact ⟨_, hreached.1⟩

end

/-- An engine that leaves a bundle without code, and a manifest without dependencies. -/
def plainEngine : Conduct where
  artifact := some (.ofText "1\n2\n3\n4\n".toList)

def plainFiles : FileTree :=
  (FileTree.empty.plant ["r".toList, "eslint".toList, "package.json".toList]
    (.file (.ofText "\x7b\x7d".toList) none)).plant ["r".toList, "deno".toList] .directory

/-- A program that does nothing but install that engine. -/
def plainProgram : Deed where
  conduct := {}
  engine := some (.file [] (some plainEngine))

def plainMachine : Machine where
  working := []
  programs := fun _ ↦ .present plainProgram

theorem run_succeeds_iff_plain :
    Path.isAbsolute "/r".toList = true ∧ ∃ report after,
      ((pipeline plainMachine (.ofRoot "/r".toList) .fixed).run [] .release).result
        ⟨plainFiles, []⟩ = (.ok report, after) ∧
      after.starts = [
        .started "npm".toList ["-v".toList] [],
        .started "npm".toList ["install".toList] ["r".toList, "eslint".toList],
        .started "/r/eslint/node_modules/.bin/esbuild".toList
          ["./bin/eslint.js".toList, "--bundle".toList, "--format=iife".toList,
            "--platform=node".toList, "--legal-comments=none".toList,
            "--outfile=eslint_bundle.js".toList] ["r".toList, "eslint".toList],
        .started "cargo".toList ["--version".toList] [],
        .started "cargo".toList ["build".toList, "--release".toList]
          ["r".toList, "deno".toList]] := by
  have hroot : Path.isAbsolute "/r".toList = true := by decide
  have hblank : Json.IsWhite [] := by simp [Json.IsWhite]
  have hwritten : Manifest.Document [] "\x7b\x7d".toList := .mk hblank (.empty hblank) hblank
  have hload : Manifest.load plainFiles [] (Path.join "/r".toList "eslint".toList) = .ok {} :=
    Manifest.load_of_read rfl (Manifest.parse_document hwritten trivial)
  obtain ⟨outcome, after, spawned, hrun, hstarts, -, -, hall, hsucceeds⟩ :=
    run_succeeds_iff plainMachine .fixed .release ⟨plainFiles, []⟩ hroot
  obtain ⟨report, hreport⟩ := hsucceeds.mpr ⟨plainProgram, _, plainEngine, _, plainProgram,
    ⟨⟨_, hload⟩, rfl, rfl, rfl⟩, ⟨_, _, _, _, _, rfl, rfl, rfl, by decide, rfl, rfl, rfl, rfl⟩,
    ⟨rfl, ⟨_, rfl⟩, rfl⟩⟩
  refine ⟨hroot, report, after, ?_, ?_⟩
  · rw [← hreport]
    exact hrun
  · rw [hstarts, hall ⟨report, hreport⟩]
    rfl

end Toolchain

end ScriptEmbed
