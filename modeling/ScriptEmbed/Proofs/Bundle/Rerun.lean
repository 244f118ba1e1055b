import Mathlib.Tactic.SplitIfs
import ScriptEmbed.Proofs.Bundle.Artifact
import ScriptEmbed.Proofs.Files.Slot
import ScriptEmbed.Proofs.Session.Memoryless

/-!
Generating a bundle again. What is at the output path is cleared away before anything else happens,
so two runs on files that differ only there go on with the same files (`clear_of_sameButFile`). With
an engine that has no memory the rest of a run depends on these alone (`memoryless_produce`), and
the two runs differ at most in the notice of what was removed (`generate_of_sameButFile`). An engine
that is confined to the output path keeps all else as it was, over any number of calls
(`changesAt_afterCalls`), so a call after them is a call on the files of the beginning.
-/

set_option autoImplicit false
set_option relaxedAutoImplicit false

namespace ScriptEmbed

open Files

/-! ### Engines -/

theorem changesAt_of_apply {leaving : Leaving} {working : Place} {path : Path}
    {files other : FileTree} (hleaving : leaving ≠ .directory)
    (h : leaving.apply working path files = .ok other) : files.ChangesAt working path other := by
  cases leaving with
  | nothing => exact Or.inl (Except.ok.inj h)
  | file contents => exact (FileTree.changesAt_of_write h).2.1
  | directory => exact (hleaving rfl).elim

namespace Engine

/-- What an engine does depends on the files alone. -/
structure Memoryless (engine : Engine) (spec : Bundle.Spec) : Prop where
  check : (engine.check spec).Memoryless
  bundle : (engine.bundle spec).Memoryless

/-- An engine changes nothing but what is at the output path. -/
structure Confined (engine : Engine) (working : Place) (spec : Bundle.Spec) : Prop where
  check : ∀ {session outcome after}, (engine.check spec).result session = (outcome, after) →
    session.files.ChangesAt working spec.outputPath after.files
  bundle : ∀ {session outcome after}, (engine.bundle spec).result session = (outcome, after) →
    session.files.ChangesAt working spec.outputPath after.files

/-- An engine asks no collaborator for anything. -/
structure AsksNobody (engine : Engine) (spec : Bundle.Spec) : Prop where
  check : ∀ {session outcome after}, (engine.check spec).result session = (outcome, after) →
    after.requests = session.requests
  bundle : ∀ {session outcome after}, (engine.bundle spec).result session = (outcome, after) →
    after.requests = session.requests

/-- An engine's check leaves the files as they are. -/
def OnlyLooks (engine : Engine) (spec : Bundle.Spec) : Prop :=
  ∀ {session outcome after}, (engine.check spec).result session = (outcome, after) →
    after.files = session.files

theorem memoryless_scripted (working : Place) (conduct : EngineConduct) (spec : Bundle.Spec) :
    (scripted working conduct).Memoryless spec := by
  refine ⟨Action.memoryless_orFail _, ?_⟩
  refine Action.memoryless_bind (Action.memoryless_blame _ (Action.memoryless_change _)) ?_
  intro _
  refine Action.memoryless_bind (Action.memoryless_happen _) ?_
  intro _
  exact Action.memoryless_orFail _

/-- Making directories may change more than the output path, but nothing else that is left does. -/
theorem confined_scripted (working : Place) {conduct : EngineConduct}
    (hleaving : conduct.leaving ≠ .directory) (spec : Bundle.Spec) :
    (scripted working conduct).Confined working spec := by
  constructor
  · intro session outcome after hcheck
    rw [result_check_scripted] at hcheck
    obtain ⟨-, rfl⟩ := Prod.mk.inj hcheck
    exact Or.inl rfl
  · intro session outcome after hbundle
    rw [result_bundle_scripted] at hbundle
    cases happly : conduct.leaving.apply working spec.outputPath session.files with
    | error cause =>
      rw [happly] at hbundle
      obtain ⟨-, rfl⟩ := Prod.mk.inj hbundle
      exact Or.inl rfl
    | ok left =>
      rw [happly] at hbundle
      obtain ⟨-, rfl⟩ := Prod.mk.inj hbundle
      exact changesAt_of_apply hleaving happly

theorem asksNobody_scripted (working : Place) (conduct : EngineConduct) (spec : Bundle.Spec) :
    (scripted working conduct).AsksNobody spec := by
  constructor
  · intro session outcome after hcheck
    rw [result_check_scripted] at hcheck
    rw [(Prod.mk.inj hcheck).2]
  · intro session outcome after hbundle
    exact (bundled_of_scripted hbundle).1

theorem onlyLooks_scripted (working : Place) (conduct : EngineConduct) (spec : Bundle.Spec) :
    (scripted working conduct).OnlyLooks spec := by
  intro session outcome after hcheck
  rw [result_check_scripted] at hcheck
  rw [(Prod.mk.inj hcheck).2]

end Engine

namespace Bundle

/-! ### Clearing the output path -/

section

variable {files other cleared : FileTree} {working parent : Place} {path : Path} {name : Text}
variable {removed : Bool}

theorem clear_of_parent (hparent : files.resolveParent working path = .ok (parent, some name))
    (hslash : path.endsInSlash = false) :
    clear files working path =
      if FileTree.nameIsTooLong name then .error .nameTooLong
      else if files.at? (parent ++ [name]) = some .directory then .error .isADirectory
      else .ok ((files.at? (parent ++ [name])).isSome, files.update (parent ++ [name]) none) := by
  unfold clear
  rw [FileTree.remove, hparent]
  cases hlong : FileTree.nameIsTooLong name with
  | true =>
    have hcause : FileError.nameTooLong ≠ .notFound := by decide
    simp [bind, Except.bind, FileTree.checkName, hlong, hcause]
  | false =>
    simp only [bind, Except.bind, FileTree.checkName_eq_ok_iff.mpr hlong]
    cases hentry : files.at? (parent ++ [name]) with
    | none =>
      rw [FileTree.update_of_nothing hentry]
      rfl
    | some entry =>
      cases entry with
      | directory => rfl
      | file contents program =>
        rw [hslash]
        rfl

/-- Where the output path could be cleared, no directory was there, and nothing else changed. -/
theorem changesAt_of_clear (hslash : path.endsInSlash = false)
    (h : clear files working path = .ok (removed, cleared)) :
    files.NoDirectory working path ∧ files.ChangesAt working path cleared := by
  cases hslot : files.slot? working path with
  | some place =>
    obtain ⟨parent, name, rfl, hparent⟩ := FileTree.slot?_eq_some_iff.mp hslot
    rw [clear_of_parent hparent hslash] at h
    split_ifs at h with hlong hdirectory
    obtain ⟨-, rfl⟩ := Prod.mk.inj (Except.ok.inj h)
    refine ⟨?_, Or.inr ⟨_, hslot, FileTree.agreeApartFrom_update _ _ _⟩⟩
    intro place hplace
    obtain rfl := Option.some.inj (hslot.symm.trans hplace)
    exact hdirectory
  | none =>
    have hfree : files.NoDirectory working path := by
      intro place hplace
      rw [hslot] at hplace
      cases hplace
    refine ⟨hfree, Or.inl ?_⟩
    unfold clear at h
    split at h
    · rename_i hremove
      obtain ⟨parent, name, -, -, hparent, -⟩ := FileTree.remove_eq_ok_iff.mp hremove
      rw [FileTree.slot?_of_parent hparent] at hslot
      cases hslot
    · split_ifs at h
      exact (Prod.mk.inj (Except.ok.inj h)).2

/-- Clearing files that differ only at the output path either is refused in both, where nothing can
be found there, or leaves the same files. -/
theorem clear_of_sameButFile (hslash : path.endsInSlash = false)
    (hsame : FileTree.SameButFile working path files other) :
    (∃ cause, clear files working path = .error cause ∧ clear other working path = .error cause ∧
      files.found? working path = other.found? working path) ∨
    ∃ removed removed' cleared, clear files working path = .ok (removed, cleared) ∧
      clear other working path = .ok (removed', cleared) := by
  rcases hsame.changes with rfl | ⟨place, hslot, hagree⟩
  · cases clear files working path with
    | error cause => exact Or.inl ⟨cause, rfl, rfl, rfl⟩
    | ok cleared => exact Or.inr ⟨cleared.1, cleared.1, cleared.2, rfl, rfl⟩
  -- the path leads to the same slot in both trees, so clearing it there leaves the same tree
  have hfree := hsame.noDirectory place hslot
  have hslot' := FileTree.slot?_of_agree hslot hfree hagree
  have hfree' := hsame.noDirectory' place hslot'
  obtain ⟨parent, name, rfl, hparent⟩ := FileTree.slot?_eq_some_iff.mp hslot
  have hparent' : other.resolveParent working path = .ok (parent, some name) := by
    obtain ⟨parent', name', heq, hparent'⟩ := FileTree.slot?_eq_some_iff.mp hslot'
    obtain ⟨rfl, hname⟩ := List.append_inj' heq rfl
    rw [(List.cons.inj hname).1, hparent']
  rw [clear_of_parent hparent hslash, clear_of_parent hparent' hslash]
  by_cases hlong : FileTree.nameIsTooLong name = true
  · -- nothing is ever found under a name that is too long
    have hnowhere : ∀ {tree : FileTree}, tree.resolveParent working path = .ok (parent, some name) →
        tree.found? working path = none := by
      intro tree htree
      unfold FileTree.found?
      split
      · rename_i hplace
        obtain ⟨-, hshort, -⟩ := (FileTree.resolve_eq_ok_iff htree).mp hplace
        rw [hlong] at hshort
        cases hshort
      · rfl
    refine Or.inl ⟨.nameTooLong, if_pos hlong, if_pos hlong, ?_⟩
    rw [hnowhere hparent, hnowhere hparent']
  · rw [if_neg hlong, if_neg hlong, if_neg hfree, if_neg hfree',
      FileTree.update_eq_of_agree hagree none]
    exact Or.inr ⟨_, _, _, rfl, rfl⟩

end

/-! ### After the clearing -/

section

variable {working : Place} {recipe : Recipe} {engine : Engine}

theorem result_generate (working : Place) (recipe : Recipe) (engine : Engine)
    (session : Session) :
    (generate working recipe engine).result session =
      match clear session.files working recipe.spec.outputPath with
      | .error cause => (.error (.artifact recipe.spec.outputPath cause), session)
      | .ok (removed, cleared) =>
        (produce working recipe engine).result
          ({ session with files := cleared }.noting
            (removalNotice recipe.spec.outputPath removed)) := by
  have hremove := result_removeStale working recipe.spec.outputPath session
  unfold generate
  cases hclear : clear session.files working recipe.spec.outputPath with
  | error cause =>
    rw [hclear] at hremove
    rw [Action.result_bind_of_error hremove]
  | ok cleared =>
    rw [hclear] at hremove
    rw [Action.result_bind_of_ok hremove, Action.result_bind_of_ok (Action.result_happen _ _)]

theorem memoryless_wrapInPlace (working : Place) (recipe : Recipe) :
    (wrapInPlace working recipe).Memoryless := by
  refine Action.memoryless_bind_get (fun _ _ ↦ rfl) fun files ↦ ?_
  refine Action.memoryless_bind (Action.memoryless_blame _ (Action.memoryless_orFail _)) ?_
  intro raw
  refine Action.memoryless_bind (Action.memoryless_blame _ (Action.memoryless_orFail _)) ?_
  intro wrapped
  refine Action.memoryless_bind (Action.memoryless_happen _) ?_
  intro _
  exact Action.memoryless_blame _ (Action.memoryless_change _)

theorem memoryless_takeOver (working : Place) (recipe : Recipe) :
    (takeOver working recipe).Memoryless := by
  refine Action.memoryless_bind (memoryless_wrapInPlace working recipe) ?_
  intro _
  exact Action.memoryless_pure _

theorem memoryless_adopt (working : Place) (recipe : Recipe) (result : ToolResult) :
    (adopt working recipe result).Memoryless := by
  unfold adopt
  cases rejection? result with
  | some fault => exact Action.memoryless_throw _
  | none =>
    refine Action.memoryless_bind (Action.memoryless_happen _) ?_
    intro _
    exact memoryless_takeOver working recipe

theorem memoryless_produce (working : Place) (hengine : engine.Memoryless recipe.spec) :
    (produce working recipe engine).Memoryless := by
  refine Action.memoryless_bind (Action.memoryless_ask _) ?_
  intro _
  refine Action.memoryless_bind (Action.memoryless_blame _ hengine.check) ?_
  intro _
  refine Action.memoryless_bind (Action.memoryless_ask _) ?_
  intro _
  refine Action.memoryless_bind (Action.memoryless_blame _ hengine.bundle) ?_
  intro result
  exact memoryless_adopt working recipe result

/-! ### Two runs -/

/-- Runs on files that differ only at the output path do the same, the notice apart. -/
theorem generate_of_sameButFile (hname : recipe.spec.outputFile.IsName)
    (hengine : engine.Memoryless recipe.spec) {files other : FileTree}
    (hsame : FileTree.SameButFile working recipe.spec.outputPath files other) :
    ∃ outcome removed removed' made after after',
      (∀ events, (generate working recipe engine).result ⟨files, events⟩ =
        (outcome, ⟨after, events ++ (removalNotice recipe.spec.outputPath removed ++ made)⟩)) ∧
      (∀ events, (generate working recipe engine).result ⟨other, events⟩ =
        (outcome, ⟨after', events ++ (removalNotice recipe.spec.outputPath removed' ++ made)⟩)) ∧
      after.found? working recipe.spec.outputPath =
        after'.found? working recipe.spec.outputPath := by
  have hslash : recipe.spec.outputPath.endsInSlash = false := hname.endsInSlash_join _
  rcases clear_of_sameButFile hslash hsame with
    ⟨cause, hclear, hclear', hfound⟩ | ⟨removed, removed', cleared, hclear, hclear'⟩
  · refine ⟨.error (.artifact recipe.spec.outputPath cause), false, false, [], files, other, ?_, ?_,
      hfound⟩
    · intro events
      rw [result_generate, hclear]
      simp [removalNotice]
    · intro events
      rw [result_generate, hclear']
      simp [removalNotice]
  · obtain ⟨outcome, after, made, hrun⟩ := memoryless_produce working hengine cleared
    refine ⟨outcome, removed, removed', made, after, after, ?_, ?_, rfl⟩
    · intro events
      rw [result_generate, hclear, ← List.append_assoc]
      exact hrun _
    · intro events
      rw [result_generate, hclear', ← List.append_assoc]
      exact hrun _

/-- Two runs that differ at most in the notice of a removed artifact. -/
structure Alike (working : Place) (output : Path)
    (first second : Except Failure Path × Session) : Prop where
  outcome : first.1 = second.1
  requests : first.2.requests = second.2.requests
  stderr : ∀ color, first.2.stderr color = second.2.stderr color
  stdout : ∀ color, ∃ before removed removed' rest,
    first.2.stdout color =
      before ++ (removalNotice output removed).flatMap (Event.stdout color) ++ rest ∧
    second.2.stdout color =
      before ++ (removalNotice output removed').flatMap (Event.stdout color) ++ rest
  found : first.2.files.found? working output = second.2.files.found? working output

theorem alike_generate (hname : recipe.spec.outputFile.IsName)
    (hengine : engine.Memoryless recipe.spec) {files other : FileTree}
    (hsame : FileTree.SameButFile working recipe.spec.outputPath files other)
    (events : List Event) :
    Alike working recipe.spec.outputPath
      ((generate working recipe engine).result ⟨files, events⟩)
      ((generate working recipe engine).result ⟨other, events⟩) := by
  obtain ⟨outcome, removed, removed', made, after, after', hrun, hrun', hfound⟩ :=
    generate_of_sameButFile hname hengine hsame
  rw [hrun, hrun']
  refine ⟨rfl, ?_, ?_, ?_, hfound⟩
  · simp [Session.requests]
  · intro color
    simp [Session.stderr, stderr_removalNotice]
  · intro color
    refine ⟨events.flatMap (Event.stdout color), removed, removed',
      made.flatMap (Event.stdout color), ?_, ?_⟩
    · simp [Session.stdout]
    · simp [Session.stdout]

theorem pathExists_of_either {cleared checked : FileTree} {path : Path}
    (hclear : cleared.pathExists working path = false)
    (hlooks : engine.OnlyLooks recipe.spec → checked = cleared) {request : Request}
    {asked : FileTree} (hasked : (request, asked) ∈ [(.checkEngine, cleared), (.bundle, checked)])
    (hrequest : request = .checkEngine ∨ engine.OnlyLooks recipe.spec) :
    asked.pathExists working path = false := by
  rcases List.mem_cons.mp hasked with hcheck | hbundle
  · obtain ⟨-, rfl⟩ := Prod.mk.inj hcheck
    exact hclear
  · obtain ⟨rfl, rfl⟩ := Prod.mk.inj (List.mem_singleton.mp hbundle)
    rcases hrequest with hother | honly
    · cases hother
    · rw [hlooks honly]
      exact hclear

/-- The engine is checked when nothing is at the output path, and asked for a bundle when nothing is
there but what its own check may have left. -/
theorem pathExists_of_asked (hasks : engine.AsksNobody recipe.spec) (session : Session) :
    ∃ made, ((generate working recipe engine).result session).2.requests =
        session.requests ++ made ∧
      ∀ request asked, (request, asked) ∈ made →
        request = .checkEngine ∨ engine.OnlyLooks recipe.spec →
        asked.pathExists working recipe.spec.outputPath = false := by
  have hexit := exit_generate working recipe engine session
  generalize (generate working recipe engine).result session = ending at hexit
  cases hexit with
  | refused hclear => exact ⟨[], by simp, by simp⟩
  | @unchecked removed cleared checked chain hclear hcheck =>
    refine ⟨[(.checkEngine, cleared)], by simp [hasks.check hcheck], ?_⟩
    intro request asked hasked _
    obtain ⟨-, rfl⟩ := Prod.mk.inj (List.mem_singleton.mp hasked)
    exact pathExists_of_clear hclear
  | @unbundled removed cleared checked bundled chain hclear hcheck hbundle =>
    refine ⟨[(.checkEngine, cleared), (.bundle, checked.files)],
      by simp [hasks.bundle hbundle, hasks.check hcheck], ?_⟩
    intro request asked hasked hrequest
    exact pathExists_of_either (pathExists_of_clear hclear) (fun hlooks ↦ hlooks hcheck) hasked
      hrequest
  | @judged removed cleared checked bundled result ending hclear hcheck hbundle hverdict =>
    refine ⟨[(.checkEngine, cleared), (.bundle, checked.files)],
      by simp [requests_of_verdict hverdict, hasks.bundle hbundle, hasks.check hcheck], ?_⟩
    intro request asked hasked hrequest
    exact pathExists_of_either (pathExists_of_clear hclear) (fun hlooks ↦ hlooks hcheck) hasked
      hrequest

/-! ### Calls one after another -/

/-- Another tree after a run, with nothing changed or only what is at the output path. -/
theorem changesAt_generate (hname : recipe.spec.outputFile.IsName)
    (hengine : engine.Confined working recipe.spec) (session : Session) :
    ((generate working recipe engine).result session).2.files = session.files ∨
    session.files.NoDirectory working recipe.spec.outputPath ∧
      session.files.ChangesAt working recipe.spec.outputPath
        ((generate working recipe engine).result session).2.files := by
  have hslash : recipe.spec.outputPath.endsInSlash = false := hname.endsInSlash_join _
  have hexit := exit_generate working recipe engine session
  generalize (generate working recipe engine).result session = ending at hexit
  cases hexit with
  | refused hclear => exact Or.inl rfl
  | unchecked hclear hcheck =>
    obtain ⟨hfree, hcleared⟩ := changesAt_of_clear hslash hclear
    exact Or.inr ⟨hfree, hcleared.trans (hengine.check hcheck) hfree⟩
  | @unbundled _ _ checked bundled _ hclear hcheck hbundle =>
    obtain ⟨hfree, hcleared⟩ := changesAt_of_clear hslash hclear
    have hchecked := hcleared.trans (hengine.check hcheck) hfree
    have hlast : (checked.asking .bundle).files.ChangesAt working recipe.spec.outputPath
        bundled.files := hengine.bundle hbundle
    exact Or.inr ⟨hfree, hchecked.trans hlast hfree⟩
  | @judged _ _ checked bundled _ _ hclear hcheck hbundle hverdict =>
    obtain ⟨hfree, hcleared⟩ := changesAt_of_clear hslash hclear
    have hchecked := hcleared.trans (hengine.check hcheck) hfree
    have hlast : (checked.asking .bundle).files.ChangesAt working recipe.spec.outputPath
        bundled.files := hengine.bundle hbundle
    have hbundled := hchecked.trans hlast hfree
    rcases files_of_verdict hverdict with ⟨_, -, -, hsame, -⟩ | ⟨_, _, -, -, -, -, hwrite⟩
    · exact Or.inr ⟨hfree, hsame ▸ hbundled⟩
    · exact Or.inr ⟨hfree, hbundled.trans (FileTree.changesAt_of_write hwrite).2.1 hfree⟩

/-- One call of `generate` for a given engine. -/
structure Call where
  recipe : Recipe
  engine : Engine

/-- A call that concerns an output path alone. -/
structure Call.At (call : Call) (working : Place) (output : Path) : Prop where
  output_eq : call.recipe.spec.outputPath = output
  isName : call.recipe.spec.outputFile.IsName
  confined : call.engine.Confined working call.recipe.spec

/-- The session after calls one after another, whether they fail or not. -/
def afterCalls (working : Place) (calls : List Call) (session : Session) : Session :=
  calls.foldl (fun session call ↦ ((generate working call.recipe call.engine).result session).2)
    session

theorem changesAt_afterCalls {output : Path} {calls : List Call}
    (hcalls : ∀ call ∈ calls, call.At working output) (session : Session) :
    (afterCalls working calls session).files = session.files ∨
    session.files.NoDirectory working output ∧
      session.files.ChangesAt working output (afterCalls working calls session).files := by
  induction calls generalizing session with
  | nil => exact Or.inl rfl
  | cons call calls ih =>
    obtain ⟨hcall, hrest⟩ := List.forall_mem_cons.mp hcalls
    have hfirst := changesAt_generate hcall.isName hcall.confined session
    rw [hcall.output_eq] at hfirst
    have hlater := ih hrest ((generate working call.recipe call.engine).result session).2
    rcases hfirst with hsame | ⟨hfree, hchanges⟩
    · rw [hsame] at hlater
      exact hlater
    · rcases hlater with hsame | ⟨-, hmore⟩
      · exact Or.inr ⟨hfree, hsame ▸ hchanges⟩
      · exact Or.inr ⟨hfree, hchanges.trans hmore hfree⟩

/-- With no directory at the output path at the end, calls there have changed the file at most. -/
theorem sameButFile_afterCalls {output : Path} {calls : List Call}
    (hcalls : ∀ call ∈ calls, call.At working output) {session : Session}
    (hfree : (afterCalls working calls session).files.NoDirectory working output) :
    FileTree.SameButFile working output (afterCalls working calls session).files
      (session.files.vacate working output) := by
  rcases changesAt_afterCalls hcalls session with hsame | ⟨hstart, hchanges⟩
  · rw [hsame] at hfree ⊢
    exact FileTree.sameButFile_vacate hfree
  · have hback := hchanges.symm hstart
    exact ⟨hback.trans (FileTree.changesAt_vacate _ _ _) hfree, hfree,
      FileTree.noDirectory_vacate hstart⟩

/-- A successful run has found no directory at the output path and has left a file there. -/
theorem sameButFile_of_success (hname : recipe.spec.outputFile.IsName) {session after : Session}
    {path : Path} (hrun : (generate working recipe engine).result session = (.ok path, after))
    (hchanges : session.files.ChangesAt working recipe.spec.outputPath after.files) :
    FileTree.SameButFile working recipe.spec.outputPath session.files after.files ∧
      ∃ contents, after.files.read working recipe.spec.outputPath = .ok contents := by
  have hslash : recipe.spec.outputPath.endsInSlash = false := hname.endsInSlash_join _
  have hexit := exit_generate working recipe engine session
  rw [hrun] at hexit
  cases hexit with
  | judged hclear hcheck hbundle hverdict =>
    have hfree := (changesAt_of_clear hslash hclear).1
    rcases files_of_verdict hverdict with ⟨_, hfailed, -⟩ | ⟨_, _, -, -, -, -, hwrite⟩
    · cases hfailed
    · exact ⟨⟨hchanges, hfree, (FileTree.changesAt_of_write hwrite).2.2⟩, _,
        FileTree.read_of_write hwrite⟩

/-- Repeating a successful run that has changed nothing else leaves the same bundle. -/
theorem generate_again (hname : recipe.spec.outputFile.IsName)
    (hengine : engine.Memoryless recipe.spec) {session after : Session} {path : Path}
    (hrun : (generate working recipe engine).result session = (.ok path, after))
    (hchanges : session.files.ChangesAt working recipe.spec.outputPath after.files) :
    ∃ again, (generate working recipe engine).result after = (.ok path, again) ∧
      ∃ contents, after.files.read working recipe.spec.outputPath = .ok contents ∧
        again.files.read working recipe.spec.outputPath = .ok contents := by
  obtain ⟨hsame, contents, hread⟩ := sameButFile_of_success hname hrun hchanges
  obtain ⟨outcome, removed, removed', made, files, files', hfirst, hsecond, hfound⟩ :=
    generate_of_sameButFile hname hengine hsame
  have hends := hrun.symm.trans (hfirst session.events)
  obtain ⟨rfl, rfl⟩ := Prod.mk.inj hends
  refine ⟨_, hsecond _, contents, hread, ?_⟩
  rw [FileTree.read_eq_ok_iff_found?] at hread ⊢
  rwa [← hfound]

end

/-- Earlier runs have no influence. On files that differ only in the file at the output path, a run
comes to the same, with the same requests and the same standard error, and standard output differs
at most in the line on what was removed; the engine is asked when nothing is at the output path. So
after any calls that have left no directory there, the next one comes to what it would have come to
with nothing there, also to what it would have come to in the beginning if the calls were confined
to the output path; and repeating a successful run that has changed nothing else leaves the same
octets there. -/
theorem generate_forgets (working : Place) (recipe : Recipe) (engine : Engine)
    (hname : recipe.spec.outputFile.IsName) (hengine : engine.Memoryless recipe.spec) :
    (∀ files other events,
      FileTree.SameButFile working recipe.spec.outputPath files other →
      Alike working recipe.spec.outputPath
        ((generate working recipe engine).result ⟨files, events⟩)
        ((generate working recipe engine).result ⟨other, events⟩)) ∧
    (engine.AsksNobody recipe.spec → ∀ session, ∃ made,
      ((generate working recipe engine).result session).2.requests = session.requests ++ made ∧
      ∀ request asked, (request, asked) ∈ made →
        request = .checkEngine ∨ engine.OnlyLooks recipe.spec →
        asked.pathExists working recipe.spec.outputPath = false) ∧
    (∀ calls start session, afterCalls working calls start = session →
      session.files.NoDirectory working recipe.spec.outputPath →
      Alike working recipe.spec.outputPath
        ((generate working recipe engine).result session)
        ((generate working recipe engine).result
          { session with files := session.files.vacate working recipe.spec.outputPath }) ∧
      ((∀ call ∈ calls, call.At working recipe.spec.outputPath) →
        Alike working recipe.spec.outputPath
          ((generate working recipe engine).result session)
          ((generate working recipe engine).result
            { session with files := start.files.vacate working recipe.spec.outputPath }))) ∧
    (∀ session path after,
      (generate working recipe engine).result session = (.ok path, after) →
      session.files.ChangesAt working recipe.spec.outputPath after.files →
      ∃ again, (generate working recipe engine).result after = (.ok path, again) ∧
        ∃ contents, after.files.read working recipe.spec.outputPath = .ok contents ∧
          again.files.read working recipe.spec.outputPath = .ok contents) := by
  refine ⟨fun files other events hsame ↦ alike_generate hname hengine hsame events,
    fun hasks session ↦ pathExists_of_asked hasks session, ?_,
    fun session path after hrun hchanges ↦ generate_again hname hengine hrun hchanges⟩
  rintro calls start session rfl hfree
  refine ⟨?_, fun hcalls ↦ ?_⟩
  · exact alike_generate hname hengine (FileTree.sameButFile_vacate hfree) _
  · exact alike_generate hname hengine (sameButFile_afterCalls hcalls hfree) _

def plainSpec : Spec := .ofPaths [] "a.js".toList "b.js".toList

/-- An engine that leaves a bundle without code. -/
def plainConduct : EngineConduct := ⟨{}, .file (.ofText "1\n2\n3\n4\n".toList), []⟩

/-- An engine that leaves an octet which is no text. -/
def garbageConduct : EngineConduct := ⟨{}, .file [255], []⟩

/-- A call after one that has failed and has left its octets, and the same call again. -/
theorem generate_forgets_garbage :
    Path.IsName plainSpec.outputFile ∧ (Engine.scripted [] plainConduct).Memoryless plainSpec ∧
    ∃ session path after again,
      afterCalls [] [⟨{ spec := plainSpec }, .scripted [] garbageConduct⟩] ⟨.empty, []⟩ =
        session ∧
      session.files.read [] plainSpec.outputPath = .ok [255] ∧
      (generate [] { spec := plainSpec } (.scripted [] plainConduct)).result session =
        (.ok path, after) ∧
      (∃ made, after.requests = session.requests ++ made ∧ ∀ request asked,
        (request, asked) ∈ made → asked.pathExists [] plainSpec.outputPath = false) ∧
      ((generate [] { spec := plainSpec } (.scripted [] plainConduct)).result
        { session with files := FileTree.empty.vacate [] plainSpec.outputPath }).1 = .ok path ∧
      (generate [] { spec := plainSpec } (.scripted [] plainConduct)).result after =
        (.ok path, again) ∧
      again.files.read [] plainSpec.outputPath = after.files.read [] plainSpec.outputPath := by
  have hname : Path.IsName plainSpec.outputFile := ⟨by decide, by decide⟩
  have hengine := Engine.memoryless_scripted [] plainConduct plainSpec
  have hconfined := @Engine.confined_scripted [] plainConduct nofun plainSpec
  obtain ⟨-, hasked, hnext, hagain⟩ :=
    generate_forgets [] { spec := plainSpec } _ hname hengine
  let session := afterCalls [] [⟨{ spec := plainSpec }, .scripted [] garbageConduct⟩] ⟨.empty, []⟩
  obtain ⟨made, hrequests, hclear⟩ := hasked (Engine.asksNobody_scripted _ _ _) session
  have hfree : session.files.NoDirectory [] plainSpec.outputPath := by
    intro place hplace
    obtain rfl : place = ["b.js".toList] := (Option.some.inj hplace).symm
    decide
  have hgarbage : Call.At ⟨{ spec := plainSpec }, .scripted [] garbageConduct⟩ []
      plainSpec.outputPath :=
    ⟨rfl, hname, @Engine.confined_scripted [] garbageConduct nofun plainSpec⟩
  have halike := (hnext _ ⟨.empty, []⟩ session rfl hfree).2 (List.forall_mem_singleton.mpr hgarbage)
  have hchanges := @changesAt_generate [] { spec := plainSpec } _ hname hconfined session
  obtain ⟨again, hsecond, contents, hread, hread'⟩ := hagain session _ _ rfl
    (hchanges.elim (fun hsame ↦ Or.inl hsame.symm) (·.2))
  refine ⟨hname, hengine, session, _, _, again, rfl, rfl, rfl, ⟨made, hrequests, ?_⟩,
    halike.outcome.symm, hsecond, hread'.trans hread.symm⟩
  intro request asked hmem
  exact hclear request asked hmem (Or.inr (Engine.onlyLooks_scripted _ _ _))

end Bundle

end ScriptEmbed
