import ScriptEmbed.Proofs.Bundle.Exits
import ScriptEmbed.Proofs.Files.Lookup

/-!
What the output path holds when an engine is asked for a bundle, and when generating it has ended.
The engine's conduct is arbitrary: whether its check fails, what it leaves at the output path, what
it shows and what it answers. `Course` collects what `generate` does with such an engine, as a
statement on files only: `course_generate` reads it off the ways in which `generate` can end. Each
case has one state of the output path, so what a bundle, a failure and a request each say about the
files is a case analysis.
-/

set_option autoImplicit false
set_option relaxedAutoImplicit false

namespace ScriptEmbed

open Files

/-! ### Requests -/

def Event.request? : Event → Option (Request × FileTree)
  | .asked request files => some (request, files)
  | _ => none

/-- What the collaborators have been asked for, each time with the files as they were then. -/
def Session.requests (session : Session) : List (Request × FileTree) :=
  session.events.filterMap Event.request?

namespace Session

@[simp] theorem requests_noting (session : Session) (events : List Event) :
    (session.noting events).requests =
      session.requests ++ events.filterMap Event.request? := by
  simp [requests, noting]

@[simp] theorem requests_asking (session : Session) (request : Request) :
    (session.asking request).requests = session.requests ++ [(request, session.files)] := by
  simp [asking, Event.request?]

@[simp] theorem requests_files (session : Session) (files : FileTree) :
    { session with files := files }.requests = session.requests := rfl

end Session

@[simp] theorem request?_announced (tag : Console.Tag) (message : Text) :
    [Event.announced tag message].filterMap Event.request? = [] := rfl

@[simp] theorem request?_reported (record : Diagnostic) :
    (Event.reported record).request? = none := rfl

namespace Bundle

@[simp] theorem request?_removalNotice (path : Path) (removed : Bool) :
    (removalNotice path removed).filterMap Event.request? = [] := by
  cases removed <;> rfl

@[simp] theorem request?_warningNotice (result : ToolResult) :
    (warningNotice result).filterMap Event.request? = [] := by
  unfold warningNotice
  split <;> rfl

@[simp] theorem request?_layoutNotice (wrapped : Wrapped) :
    (layoutNotice wrapped).filterMap Event.request? = [] := by
  unfold layoutNotice
  split <;> rfl

end Bundle

/-! ### An engine of a given conduct -/

/-- The files after an engine has tried to leave something at a path. -/
def Leaving.left (leaving : Leaving) (working : Place) (path : Path) (files : FileTree) :
    FileTree :=
  match leaving.apply working path files with
  | .ok left => left
  | .error _ => files

namespace Engine

variable (working : Place) (conduct : EngineConduct) (spec : Bundle.Spec) (session : Session)

theorem result_check_scripted :
    ((scripted working conduct).check spec).result session = (conduct.answers.check, session) :=
  Action.result_orFail conduct.answers.check session

theorem result_bundle_scripted :
    ((scripted working conduct).bundle spec).result session =
      match conduct.leaving.apply working spec.outputPath session.files with
      | .error cause => (.error ⟨cause.message, []⟩, session)
      | .ok left =>
        (conduct.answers.work,
          { session with files := left }.noting (conduct.emitted.map Event.reported)) := by
  have hchange := Action.result_change (conduct.leaving.apply working spec.outputPath) session
  show ((Action.change (conduct.leaving.apply working spec.outputPath)).blame
    (fun cause ↦ (⟨cause.message, []⟩ : Chain)) >>= _).result session = _
  cases hleaving : conduct.leaving.apply working spec.outputPath session.files with
  | error cause =>
    rw [hleaving] at hchange
    rw [Action.result_bind_of_error (Action.result_blame_of_error hchange)]
  | ok left =>
    rw [hleaving] at hchange
    rw [Action.result_bind_of_ok (Action.result_blame_of_ok hchange),
      Action.result_bind_of_ok (Action.result_happen _ _), Action.result_orFail]

variable {working conduct spec session}

/-- Either way the files are what the engine left; it gives its answer only where it could leave
it. -/
theorem bundled_of_scripted {outcome : Except Chain ToolResult} {bundled : Session}
    (h : ((scripted working conduct).bundle spec).result session = (outcome, bundled)) :
    bundled.requests = session.requests ∧
      bundled.files = conduct.leaving.left working spec.outputPath session.files ∧
      ((∃ cause chain, conduct.leaving.apply working spec.outputPath session.files =
          .error cause ∧ outcome = .error chain) ∨
        (conduct.leaving.apply working spec.outputPath session.files = .ok bundled.files ∧
          outcome = conduct.answers.work)) := by
  rw [result_bundle_scripted] at h
  unfold Leaving.left
  cases hleaving : conduct.leaving.apply working spec.outputPath session.files with
  | error cause =>
    simp only [hleaving, Prod.mk.injEq] at h
    obtain ⟨rfl, rfl⟩ := h
    exact ⟨rfl, rfl, Or.inl ⟨cause, _, rfl, rfl⟩⟩
  | ok left =>
    simp only [hleaving, Prod.mk.injEq] at h
    obtain ⟨rfl, rfl⟩ := h
    exact ⟨by simp, rfl, Or.inr ⟨rfl, rfl⟩⟩

end Engine

namespace Bundle

/-! ### Clearing the output path -/

theorem pathExists_of_clear {files cleared : FileTree} {working : Place} {path : Path}
    {removed : Bool} (h : clear files working path = .ok (removed, cleared)) :
    cleared.pathExists working path = false := by
  unfold clear at h
  cases hremove : files.remove working path with
  | ok other =>
    simp only [hremove, Except.ok.injEq, Prod.mk.injEq] at h
    rw [← h.2]
    exact FileTree.pathExists_of_remove hremove
  | error cause =>
    by_cases hcause : cause = .notFound
    · simp only [hremove, hcause, ↓reduceIte, Except.ok.injEq, Prod.mk.injEq] at h
      rw [← h.2]
      exact FileTree.pathExists_of_remove_notFound (hcause ▸ hremove)
    · simp [hremove, hcause] at h

/-! ### The course of generating a bundle -/

/-- A result whose output is used: it is a success and holds no error. -/
def Usable (result : ToolResult) : Prop :=
  result.success = true ∧ ∀ record ∈ result.diagnostics, record.severity ≠ .error

theorem rejection?_eq_none_iff {result : ToolResult} :
    rejection? result = none ↔ Usable result := by
  have herrors : 0 < result.errors.length ↔ ¬ ∀ record ∈ result.diagnostics,
      record.severity ≠ .error := by
    rw [List.length_pos_iff, ne_eq, ToolResult.errors, List.filter_eq_nil_iff]
    simp [Diagnostic.isError]
  unfold rejection? Usable
  by_cases hnone : ∀ record ∈ result.diagnostics, record.severity ≠ .error
  · rw [if_neg (fun h ↦ herrors.mp h hnone), and_iff_left hnone]
    cases result.success <;> simp
  · rw [if_pos (herrors.mpr hnone)]
    simp [hnone]

/-- From files with nothing at the output path, an engine of this conduct leaves there a text that
can be wrapped, and its answer does not rule out its use. -/
structure Produces (working : Place) (recipe : Recipe) (conduct : EngineConduct)
    (cleared left : FileTree) (raw : Text) (wrapped : Wrapped) : Prop where
  leaving : conduct.leaving.apply working recipe.spec.outputPath cleared = .ok left
  answering : ∃ result, conduct.answers.work = .ok result ∧ Usable result
  reading : left.readText working recipe.spec.outputPath = .ok raw
  wrapping : wrap raw recipe.signature recipe.placement = .ok wrapped

section

variable {working : Place} {recipe : Recipe} {result : ToolResult} {session : Session}
variable {ending : Except Failure Path × Session}

theorem requests_of_takeover (h : Takeover working recipe session ending) :
    ending.2.requests = session.requests := by
  cases h <;> simp

theorem requests_of_verdict (h : Verdict working recipe result session ending) :
    ending.2.requests = session.requests := by
  cases h with
  | rejected => rfl
  | accepted _ htakeover => simp [requests_of_takeover htakeover]

/-- Taking over either leaves the files alone, with some step before the last one or the last one
failing, or all its steps have succeeded. -/
theorem files_of_takeover (h : Takeover working recipe session ending) :
    (∃ failure, ending.1 = .error failure ∧ failure.stage = .bundle ∧
      ending.2.files = session.files ∧
      ∀ raw wrapped, session.files.readText working recipe.spec.outputPath = .ok raw →
        wrap raw recipe.signature recipe.placement = .ok wrapped →
        ∃ cause, session.files.write working recipe.spec.outputPath (.ofText wrapped.text) =
          .error cause) ∨
    (∃ raw wrapped, ending.1 = .ok recipe.spec.outputPath ∧
      session.files.readText working recipe.spec.outputPath = .ok raw ∧
      wrap raw recipe.signature recipe.placement = .ok wrapped ∧
      session.files.write working recipe.spec.outputPath (.ofText wrapped.text) =
        .ok ending.2.files) := by
  cases h with
  | unreadable hread =>
    refine Or.inl ⟨_, rfl, rfl, rfl, ?_⟩
    intro raw wrapped htext _
    rw [hread] at htext
    cases htext
  | unwrappable hread hwrap =>
    refine Or.inl ⟨_, rfl, rfl, rfl, ?_⟩
    intro raw wrapped htext hwrapped
    rw [hread, Except.ok.injEq] at htext
    rw [← htext, hwrap] at hwrapped
    cases hwrapped
  | unwritable hread hwrap hwrite =>
    refine Or.inl ⟨_, rfl, rfl, rfl, ?_⟩
    intro raw wrapped htext hwrapped
    rw [hread, Except.ok.injEq] at htext
    rw [← htext, hwrap, Except.ok.injEq] at hwrapped
    exact ⟨_, hwrapped ▸ hwrite⟩
  | written hread hwrap hwrite => exact Or.inr ⟨_, _, rfl, hread, hwrap, hwrite⟩

/-- The same of a verdict: what the engine left is taken over only if its result is usable. -/
theorem files_of_verdict (h : Verdict working recipe result session ending) :
    (∃ failure, ending.1 = .error failure ∧ failure.stage = .bundle ∧
      ending.2.files = session.files ∧
      ∀ raw wrapped, Usable result →
        session.files.readText working recipe.spec.outputPath = .ok raw →
        wrap raw recipe.signature recipe.placement = .ok wrapped →
        ∃ cause, session.files.write working recipe.spec.outputPath (.ofText wrapped.text) =
          .error cause) ∨
    (∃ raw wrapped, ending.1 = .ok recipe.spec.outputPath ∧ Usable result ∧
      session.files.readText working recipe.spec.outputPath = .ok raw ∧
      wrap raw recipe.signature recipe.placement = .ok wrapped ∧
      session.files.write working recipe.spec.outputPath (.ofText wrapped.text) =
        .ok ending.2.files) := by
  cases h with
  | rejected hrejection =>
    refine Or.inl ⟨_, rfl, rfl, rfl, ?_⟩
    intro raw wrapped husable _ _
    rw [rejection?_eq_none_iff.mpr husable] at hrejection
    cases hrejection
  | accepted hacceptance htakeover =>
    rcases files_of_takeover htakeover with
      ⟨failure, hending, hstage, hfiles, hunwritten⟩ | ⟨raw, wrapped, hending, hwritten⟩
    · exact Or.inl ⟨failure, hending, hstage, hfiles, fun raw wrapped _ ↦ hunwritten raw wrapped⟩
    · exact Or.inr ⟨raw, wrapped, hending, rejection?_eq_none_iff.mp hacceptance, hwritten⟩

end

/-- What generating a bundle asks for, how it ends and what files are there then. -/
inductive Course (working : Place) (recipe : Recipe) (conduct : EngineConduct)
    (files : FileTree) : List (Request × FileTree) → Except Failure Path → FileTree → Prop
  | refused {cause : FileError}
    (clearing : clear files working recipe.spec.outputPath = .error cause) :
    Course working recipe conduct files [] (.error (.artifact recipe.spec.outputPath cause)) files
  | unchecked {removed : Bool} {cleared : FileTree} {chain : Chain}
    (clearing : clear files working recipe.spec.outputPath = .ok (removed, cleared))
    (checking : conduct.answers.check = .error chain) :
    Course working recipe conduct files [(.checkEngine, cleared)]
      (.error (.bundle (.unable chain))) cleared
  | unfinished {removed : Bool} {cleared : FileTree} {failure : Failure}
    (clearing : clear files working recipe.spec.outputPath = .ok (removed, cleared))
    (checking : conduct.answers.check = .ok ())
    (stage : failure.stage = .bundle)
    (unwritten : ∀ left raw wrapped, Produces working recipe conduct cleared left raw wrapped →
      ∃ cause, left.write working recipe.spec.outputPath (.ofText wrapped.text) = .error cause) :
    Course working recipe conduct files [(.checkEngine, cleared), (.bundle, cleared)]
      (.error failure) (conduct.leaving.left working recipe.spec.outputPath cleared)
  | finished {removed : Bool} {cleared left after : FileTree} {raw : Text} {wrapped : Wrapped}
    (clearing : clear files working recipe.spec.outputPath = .ok (removed, cleared))
    (checking : conduct.answers.check = .ok ())
    (produces : Produces working recipe conduct cleared left raw wrapped)
    (writing : left.write working recipe.spec.outputPath (.ofText wrapped.text) = .ok after) :
    Course working recipe conduct files [(.checkEngine, cleared), (.bundle, cleared)]
      (.ok recipe.spec.outputPath) after

/-- The course that `generate` takes with an engine of a given conduct. -/
theorem course_generate (working : Place) (recipe : Recipe) (conduct : EngineConduct)
    (session : Session) :
    ∃ made outcome after,
      (generate working recipe (.scripted working conduct)).result session = (outcome, after) ∧
      after.requests = session.requests ++ made ∧
      Course working recipe conduct session.files made outcome after.files := by
  have hexit := exit_generate working recipe (.scripted working conduct) session
  generalize (generate working recipe (.scripted working conduct)).result session = ending at hexit
  cases hexit with
  | refused hclear => exact ⟨[], _, _, rfl, by simp, .refused hclear⟩
  | unchecked hclear hcheck =>
    rw [Engine.result_check_scripted, Prod.mk.injEq] at hcheck
    obtain ⟨hanswer, rfl⟩ := hcheck
    exact ⟨_, _, _, rfl, by simp, .unchecked hclear hanswer⟩
  | @unbundled removed cleared _ bundled chain hclear hcheck hbundle =>
    rw [Engine.result_check_scripted, Prod.mk.injEq] at hcheck
    obtain ⟨hanswer, rfl⟩ := hcheck
    obtain ⟨hrequests, hfiles, houtcome⟩ := Engine.bundled_of_scripted hbundle
    refine ⟨[(.checkEngine, cleared), (.bundle, cleared)], _, _, rfl, by simp [hrequests], ?_⟩
    rw [hfiles]
    refine .unfinished hclear hanswer rfl ?_
    intro left raw wrapped hproduces
    obtain ⟨result, hresult, -⟩ := hproduces.answering
    have hleaving := hproduces.leaving
    rcases houtcome with ⟨cause, _, hrefused, -⟩ | ⟨-, hwork⟩
    · cases hrefused.symm.trans hleaving
    · cases hwork.trans hresult
  | @judged removed cleared _ bundled result ending hclear hcheck hbundle hverdict =>
    rw [Engine.result_check_scripted, Prod.mk.injEq] at hcheck
    obtain ⟨hanswer, rfl⟩ := hcheck
    obtain ⟨hrequests, hfiles, ⟨_, _, -, hfailed⟩ | ⟨hleaving, hwork⟩⟩ :=
      Engine.bundled_of_scripted hbundle
    · cases hfailed
    refine ⟨[(.checkEngine, cleared), (.bundle, cleared)], _, _, rfl,
      by simp [requests_of_verdict hverdict, hrequests], ?_⟩
    rcases files_of_verdict hverdict with
      ⟨failure, hending, hstage, hafter, hunwritten⟩ | ⟨raw, wrapped, hending, husable, hread,
        hwrap, hwrite⟩
    · rw [hending, hafter, hfiles]
      refine .unfinished hclear hanswer hstage ?_
      intro left raw wrapped hproduces
      obtain ⟨answered, hanswered, husable⟩ := hproduces.answering
      cases hwork.trans hanswered
      cases hleaving.symm.trans hproduces.leaving
      exact hunwritten raw wrapped husable hproduces.reading hproduces.wrapping
    · rw [hending]
      exact .finished hclear hanswer ⟨hleaving, ⟨_, hwork.symm, husable⟩, hread, hwrap⟩ hwrite

namespace Course

variable {working : Place} {recipe : Recipe} {conduct : EngineConduct} {files after : FileTree}
variable {made : List (Request × FileTree)} {outcome : Except Failure Path} {failure : Failure}

/-- The engine is asked for a bundle only when nothing is at the output path. -/
theorem pathExists_of_bundle {asked : FileTree}
    (h : Course working recipe conduct files made outcome after) (hasked : (.bundle, asked) ∈ made) :
    asked.pathExists working recipe.spec.outputPath = false := by
  cases h with
  | refused => simp at hasked
  | unchecked => simp at hasked
  | unfinished hclear | finished hclear =>
    obtain rfl : asked = _ := by simpa using hasked
    exact pathExists_of_clear hclear

/-- Success is decided by what the engine leaves and answers, and by the last write. -/
theorem outcome_eq_ok_iff (h : Course working recipe conduct files made outcome after)
    {path : Path} :
    outcome = .ok path ↔ path = recipe.spec.outputPath ∧
      ∃ removed cleared left raw wrapped written,
        clear files working recipe.spec.outputPath = .ok (removed, cleared) ∧
          conduct.answers.check = .ok () ∧
          Produces working recipe conduct cleared left raw wrapped ∧
          left.write working recipe.spec.outputPath (.ofText wrapped.text) = .ok written := by
  constructor
  · rintro rfl
    cases h with
    | finished hclear hcheck hproduces hwrite =>
      exact ⟨rfl, _, _, _, _, _, _, hclear, hcheck, hproduces, hwrite⟩
  · rintro ⟨rfl, removed, cleared, left, raw, wrapped, written, hcleared, hchecked, hproduces,
      hwrite⟩
    cases h with
    | refused hclear => cases hclear.symm.trans hcleared
    | unchecked _ hcheck => cases hcheck.symm.trans hchecked
    | unfinished hclear _ _ hunwritten =>
      cases hclear.symm.trans hcleared
      obtain ⟨cause, hcause⟩ := hunwritten left raw wrapped hproduces
      cases hcause.symm.trans hwrite
    | finished => rfl

/-- After a success the output path holds what this engine left, wrapped. -/
theorem written_of_ok {path : Path}
    (h : Course working recipe conduct files made (.ok path) after) :
    ∃ removed cleared left raw wrapped,
      clear files working recipe.spec.outputPath = .ok (removed, cleared) ∧
        made = [(.checkEngine, cleared), (.bundle, cleared)] ∧
        Produces working recipe conduct cleared left raw wrapped ∧
        left.write working recipe.spec.outputPath (.ofText wrapped.text) = .ok after ∧
        after.read working recipe.spec.outputPath = .ok (.ofText wrapped.text) := by
  cases h with
  | finished hclear _ hproduces hwrite =>
    exact ⟨_, _, _, _, _, hclear, rfl, hproduces, hwrite, FileTree.read_of_write hwrite⟩

/-- A failure leaves what was there if that could not be removed, and otherwise what the engine
left: nothing, if it was not asked for a bundle. -/
theorem files_of_error (h : Course working recipe conduct files made (.error failure) after) :
    (∃ cause, clear files working recipe.spec.outputPath = .error cause ∧ made = [] ∧
      after = files) ∨
    ∃ removed cleared, clear files working recipe.spec.outputPath = .ok (removed, cleared) ∧
      ((∃ chain, conduct.answers.check = .error chain ∧ made = [(.checkEngine, cleared)] ∧
          after = cleared ∧ after.pathExists working recipe.spec.outputPath = false) ∨
        (conduct.answers.check = .ok () ∧
          made = [(.checkEngine, cleared), (.bundle, cleared)] ∧
          after = conduct.leaving.left working recipe.spec.outputPath cleared)) := by
  cases h with
  | refused hclear => exact Or.inl ⟨_, hclear, rfl, rfl⟩
  | unchecked hclear hcheck =>
    exact Or.inr ⟨_, _, hclear, Or.inl ⟨_, hcheck, rfl, rfl, pathExists_of_clear hclear⟩⟩
  | unfinished hclear hcheck => exact Or.inr ⟨_, _, hclear, Or.inr ⟨hcheck, rfl, rfl⟩⟩

end Course

/-- What is at the output path. The engine is asked for a bundle only when nothing is there. The
path is given back if and only if the artifact of an earlier run was cleared away, the engine's
check and work succeeded without an error among its records, and what it left is a text that can be
wrapped; the file is that text, wrapped, then. After a failure the files are as they were, if the
clearing was refused, or as the engine left them. That a text which was just read can be written is
assumed: nothing in `generate` could make up for a failure there. -/
theorem artifact_of_generate (working : Place) (recipe : Recipe) (conduct : EngineConduct)
    (session : Session)
    (hwritable : ∀ removed cleared left,
      clear session.files working recipe.spec.outputPath = .ok (removed, cleared) →
      conduct.leaving.apply working recipe.spec.outputPath cleared = .ok left →
      left.Rewritable working recipe.spec.outputPath) :
    ∃ made outcome after,
      (generate working recipe (.scripted working conduct)).result session = (outcome, after) ∧
      after.requests = session.requests ++ made ∧
      (∀ asked, (.bundle, asked) ∈ made →
        asked.pathExists working recipe.spec.outputPath = false) ∧
      (∀ path, outcome = .ok path ↔ path = recipe.spec.outputPath ∧
        ∃ removed cleared left raw wrapped,
          clear session.files working recipe.spec.outputPath = .ok (removed, cleared) ∧
            conduct.answers.check = .ok () ∧
            Produces working recipe conduct cleared left raw wrapped) ∧
      (∀ path, outcome = .ok path → ∃ removed cleared left raw wrapped,
          clear session.files working recipe.spec.outputPath = .ok (removed, cleared) ∧
            made = [(.checkEngine, cleared), (.bundle, cleared)] ∧
            Produces working recipe conduct cleared left raw wrapped ∧
            left.write working recipe.spec.outputPath (.ofText wrapped.text) = .ok after.files ∧
            after.files.read working recipe.spec.outputPath = .ok (.ofText wrapped.text)) ∧
      (∀ failure, outcome = .error failure →
        (∃ cause, clear session.files working recipe.spec.outputPath = .error cause ∧ made = [] ∧
          after.files = session.files) ∨
        ∃ removed cleared,
          clear session.files working recipe.spec.outputPath = .ok (removed, cleared) ∧
          ((∃ chain, conduct.answers.check = .error chain ∧ made = [(.checkEngine, cleared)] ∧
              after.files = cleared ∧
              after.files.pathExists working recipe.spec.outputPath = false) ∨
            (conduct.answers.check = .ok () ∧
              made = [(.checkEngine, cleared), (.bundle, cleared)] ∧
              after.files =
                conduct.leaving.left working recipe.spec.outputPath cleared))) := by
  obtain ⟨made, outcome, after, hresult, hrequests, hcourse⟩ :=
    course_generate working recipe conduct session
  refine ⟨made, outcome, after, hresult, hrequests, fun asked ↦ hcourse.pathExists_of_bundle,
    fun path ↦ ?_, ?_, ?_⟩
  · rw [hcourse.outcome_eq_ok_iff]
    refine and_congr_right fun _ ↦ ⟨?_, ?_⟩
    · rintro ⟨removed, cleared, left, raw, wrapped, _, hclear, hcheck, hproduces, -⟩
      exact ⟨removed, cleared, left, raw, wrapped, hclear, hcheck, hproduces⟩
    · rintro ⟨removed, cleared, left, raw, wrapped, hclear, hcheck, hproduces⟩
      obtain ⟨written, hwrite⟩ := hwritable removed cleared left hclear hproduces.leaving raw
        hproduces.reading (.ofText wrapped.text)
      exact ⟨removed, cleared, left, raw, wrapped, written, hclear, hcheck, hproduces, hwrite⟩
  · rintro path rfl
    exact hcourse.written_of_ok
  · rintro failure rfl
    exact hcourse.files_of_error

/-- An engine that leaves a bundle without code, where an earlier run has left something else. -/
theorem artifact_of_generate_stale :
    (∀ removed cleared left,
      clear (FileTree.empty.update ["b.js".toList] (some (.file [] none))) [] "b.js".toList =
        .ok (removed, cleared) →
      (Leaving.file (.ofText "1\n2\n3\n4\n".toList)).apply [] "b.js".toList cleared = .ok left →
      left.Rewritable [] "b.js".toList) ∧
    ∃ after,
      (generate [] { spec := .ofPaths [] "a.js".toList "b.js".toList }
        (.scripted [] ⟨{}, .file (.ofText "1\n2\n3\n4\n".toList), []⟩)).result
        ⟨FileTree.empty.update ["b.js".toList] (some (.file [] none)), []⟩ =
      (.ok "b.js".toList, after) := by
  have hwritable : ∀ left : FileTree, left.Rewritable [] "b.js".toList :=
    fun left ↦ FileTree.rewritable_of_last_name (by decide)
  obtain ⟨made, outcome, after, hresult, -, -, hok, -⟩ :=
    artifact_of_generate [] { spec := .ofPaths [] "a.js".toList "b.js".toList }
      ⟨{}, .file (.ofText "1\n2\n3\n4\n".toList), []⟩
      ⟨FileTree.empty.update ["b.js".toList] (some (.file [] none)), []⟩
      fun _ _ left _ _ ↦ hwritable left
  refine ⟨fun _ _ left _ _ ↦ hwritable left, after, ?_⟩
  rw [hresult, (hok "b.js".toList).mpr ⟨rfl, true, _, _, "1\n2\n3\n4\n".toList, _, rfl, rfl,
    ⟨rfl, ⟨_, rfl, rfl, by simp⟩, by rfl, rfl⟩⟩]

end Bundle

end ScriptEmbed
