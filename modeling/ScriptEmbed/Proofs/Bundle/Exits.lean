import ScriptEmbed.Bundle.Generation

/-!
The ways in which generating a bundle can end, for any engine. `Exit` has a case for each way that
ends before the engine has given a result, `Verdict` says whether the result is rejected or what the
engine left is taken over, and `Takeover` has a case for each way in which that ends; every case
says what led to it, the failure or the path that comes of it, and the session that it leaves.
`takeover_takeOver`, `verdict_adopt` and `exit_generate` show that there is no other way, so a
statement on all runs is a statement on these cases.
-/

set_option autoImplicit false
set_option relaxedAutoImplicit false

namespace ScriptEmbed

open Files

namespace Bundle

/-- The files without the artifact of an earlier run, and whether there was one, unless its removal
is refused. -/
def clear (files : FileTree) (working : Place) (path : Path) : Except FileError (Bool × FileTree) :=
  match files.remove working path with
  | .ok cleared => .ok (true, cleared)
  | .error cause => if cause = .notFound then .ok (false, files) else .error cause

theorem stderr_removalNotice (color : Bool) (path : Path) (removed : Bool) :
    (removalNotice path removed).flatMap (Event.stderr color) = [] := by
  cases removed <;> rfl

theorem stderr_warningNotice (color : Bool) (result : ToolResult) :
    (warningNotice result).flatMap (Event.stderr color) = [] := by
  unfold warningNotice
  split <;> rfl

theorem stderr_layoutNotice (color : Bool) (wrapped : Wrapped) :
    (layoutNotice wrapped).flatMap (Event.stderr color) = [] := by
  unfold layoutNotice
  split <;> rfl

/-- How taking over what the engine left ends: the text at the output path is read, wrapped and
written back there. -/
inductive Takeover (working : Place) (recipe : Recipe) (session : Session) :
    Except Failure Path × Session → Prop
  | unreadable {cause : FileError}
    (reading : session.files.readText working recipe.spec.outputPath = .error cause) :
    Takeover working recipe session (.error (.artifact recipe.spec.outputPath cause), session)
  | unwrappable {raw : Text} {cause : SpliceError}
    (reading : session.files.readText working recipe.spec.outputPath = .ok raw)
    (wrapping : wrap raw recipe.signature recipe.placement = .error cause) :
    Takeover working recipe session (.error cause.failure, session)
  | unwritable {raw : Text} {wrapped : Wrapped} {cause : FileError}
    (reading : session.files.readText working recipe.spec.outputPath = .ok raw)
    (wrapping : wrap raw recipe.signature recipe.placement = .ok wrapped)
    (writing : session.files.write working recipe.spec.outputPath (.ofText wrapped.text) =
      .error cause) :
    Takeover working recipe session (.error (.artifact recipe.spec.outputPath cause),
      session.noting (layoutNotice wrapped))
  | written {raw : Text} {wrapped : Wrapped} {files : FileTree}
    (reading : session.files.readText working recipe.spec.outputPath = .ok raw)
    (wrapping : wrap raw recipe.signature recipe.placement = .ok wrapped)
    (writing : session.files.write working recipe.spec.outputPath (.ofText wrapped.text) =
      .ok files) :
    Takeover working recipe session (.ok recipe.spec.outputPath,
      { session.noting (layoutNotice wrapped) with files := files })

/-- How it ends once the engine has given a result. -/
inductive Verdict (working : Place) (recipe : Recipe) (result : ToolResult) (session : Session) :
    Except Failure Path × Session → Prop
  | rejected {fault : BundleFault} (rejection : rejection? result = some fault) :
    Verdict working recipe result session (.error (.bundle fault), session)
  | accepted {ending : Except Failure Path × Session} (acceptance : rejection? result = none)
    (takeover : Takeover working recipe (session.noting (warningNotice result)) ending) :
    Verdict working recipe result session ending

/-- How generating a bundle ends. -/
inductive Exit (working : Place) (recipe : Recipe) (engine : Engine) (session : Session) :
    Except Failure Path × Session → Prop
  | refused {cause : FileError}
    (clearing : clear session.files working recipe.spec.outputPath = .error cause) :
    Exit working recipe engine session
      (.error (.artifact recipe.spec.outputPath cause), session)
  | unchecked {removed : Bool} {cleared : FileTree} {checked : Session} {chain : Chain}
    (clearing : clear session.files working recipe.spec.outputPath = .ok (removed, cleared))
    (checking : (engine.check recipe.spec).result
      (({ session with files := cleared }.noting
        (removalNotice recipe.spec.outputPath removed)).asking .checkEngine) =
      (.error chain, checked)) :
    Exit working recipe engine session (.error (.bundle (.unable chain)), checked)
  | unbundled {removed : Bool} {cleared : FileTree} {checked bundled : Session} {chain : Chain}
    (clearing : clear session.files working recipe.spec.outputPath = .ok (removed, cleared))
    (checking : (engine.check recipe.spec).result
      (({ session with files := cleared }.noting
        (removalNotice recipe.spec.outputPath removed)).asking .checkEngine) =
      (.ok (), checked))
    (bundling : (engine.bundle recipe.spec).result (checked.asking .bundle) =
      (.error chain, bundled)) :
    Exit working recipe engine session (.error (.bundle (.unable chain)), bundled)
  | judged {removed : Bool} {cleared : FileTree} {checked bundled : Session}
    {result : ToolResult} {ending : Except Failure Path × Session}
    (clearing : clear session.files working recipe.spec.outputPath = .ok (removed, cleared))
    (checking : (engine.check recipe.spec).result
      (({ session with files := cleared }.noting
        (removalNotice recipe.spec.outputPath removed)).asking .checkEngine) =
      (.ok (), checked))
    (bundling : (engine.bundle recipe.spec).result (checked.asking .bundle) =
      (.ok result, bundled))
    (verdict : Verdict working recipe result bundled ending) :
    Exit working recipe engine session ending

theorem result_removeStale (working : Place) (path : Path) (session : Session) :
    (removeStale working path).result session =
      match clear session.files working path with
      | .ok (removed, cleared) => (.ok removed, { session with files := cleared })
      | .error cause => (.error (.artifact path cause), session) := by
  unfold removeStale clear
  rw [Action.result_bind_of_ok (Action.result_get session)]
  cases session.files.remove working path with
  | ok cleared => rfl
  | error cause => by_cases hcause : cause = .notFound <;> simp [hcause]

theorem result_wrapInPlace (working : Place) (recipe : Recipe) (session : Session) :
    (wrapInPlace working recipe).result session =
      match session.files.readText working recipe.spec.outputPath with
      | .error cause => (.error (.artifact recipe.spec.outputPath cause), session)
      | .ok raw =>
        match wrap raw recipe.signature recipe.placement with
        | .error cause => (.error cause.failure, session)
        | .ok wrapped =>
          match session.files.write working recipe.spec.outputPath (.ofText wrapped.text) with
          | .error cause =>
            (.error (.artifact recipe.spec.outputPath cause),
              session.noting (layoutNotice wrapped))
          | .ok files =>
            (.ok (), { session.noting (layoutNotice wrapped) with files := files }) := by
  have hread := Action.result_orFail
    (session.files.readText working recipe.spec.outputPath) session
  unfold wrapInPlace
  rw [Action.result_bind_of_ok (Action.result_get session)]
  cases htext : session.files.readText working recipe.spec.outputPath with
  | error cause =>
    rw [htext] at hread
    rw [Action.result_bind_of_error (Action.result_blame_of_error hread)]
  | ok raw =>
    have hwrap := Action.result_orFail (wrap raw recipe.signature recipe.placement) session
    rw [htext] at hread
    rw [Action.result_bind_of_ok (Action.result_blame_of_ok hread)]
    dsimp only
    cases hwrapped : wrap raw recipe.signature recipe.placement with
    | error cause =>
      rw [hwrapped] at hwrap
      rw [Action.result_bind_of_error (Action.result_blame_of_error hwrap)]
    | ok wrapped =>
      rw [hwrapped] at hwrap
      rw [Action.result_bind_of_ok (Action.result_blame_of_ok hwrap),
        Action.result_bind_of_ok (Action.result_happen _ _), Action.result_blame,
        Action.result_change, Session.files_noting]
      dsimp only
      cases session.files.write working recipe.spec.outputPath (.ofText wrapped.text) <;> rfl

theorem takeover_takeOver (working : Place) (recipe : Recipe) (session : Session) :
    Takeover working recipe session ((takeOver working recipe).result session) := by
  have hwrap := result_wrapInPlace working recipe session
  unfold takeOver
  cases hread : session.files.readText working recipe.spec.outputPath with
  | error cause =>
    rw [hread] at hwrap
    rw [Action.result_bind_of_error hwrap]
    exact .unreadable hread
  | ok raw =>
    cases hwrapped : wrap raw recipe.signature recipe.placement with
    | error cause =>
      simp only [hread, hwrapped] at hwrap
      rw [Action.result_bind_of_error hwrap]
      exact .unwrappable hread hwrapped
    | ok wrapped =>
      cases hwrite : session.files.write working recipe.spec.outputPath (.ofText wrapped.text) with
      | error cause =>
        simp only [hread, hwrapped, hwrite] at hwrap
        rw [Action.result_bind_of_error hwrap]
        exact .unwritable hread hwrapped hwrite
      | ok files =>
        simp only [hread, hwrapped, hwrite] at hwrap
        rw [Action.result_bind_of_ok hwrap]
        exact .written hread hwrapped hwrite

theorem verdict_adopt (working : Place) (recipe : Recipe) (result : ToolResult)
    (session : Session) :
    Verdict working recipe result session ((adopt working recipe result).result session) := by
  unfold adopt
  cases hrejection : rejection? result with
  | some fault => exact .rejected hrejection
  | none =>
    simp only
    rw [Action.result_bind_of_ok (Action.result_happen _ _)]
    exact .accepted hrejection (takeover_takeOver working recipe _)

/-- Every run of `generate` ends in one of these ways. -/
theorem exit_generate (working : Place) (recipe : Recipe) (engine : Engine) (session : Session) :
    Exit working recipe engine session ((generate working recipe engine).result session) := by
  unfold generate produce
  cases hclear : clear session.files working recipe.spec.outputPath with
  | error cause =>
    rw [Action.result_bind_of_error (by rw [result_removeStale, hclear])]
    exact .refused hclear
  | ok cleared =>
    obtain ⟨removed, files⟩ := cleared
    rw [Action.result_bind_of_ok (by rw [result_removeStale, hclear]),
      Action.result_bind_of_ok (Action.result_happen _ _),
      Action.result_bind_of_ok (Action.result_ask _ _)]
    rcases hcheck : (engine.check recipe.spec).result (({ session with files := files }.noting
        (removalNotice recipe.spec.outputPath removed)).asking .checkEngine) with
      ⟨chain | able, checked⟩
    · rw [Action.result_bind_of_error (Action.result_blame_of_error hcheck)]
      exact .unchecked hclear hcheck
    rw [Action.result_bind_of_ok (Action.result_blame_of_ok hcheck),
      Action.result_bind_of_ok (Action.result_ask _ _)]
    rcases hbundle : (engine.bundle recipe.spec).result (checked.asking .bundle) with
      ⟨chain | result, bundled⟩
    · rw [Action.result_bind_of_error (Action.result_blame_of_error hbundle)]
      exact .unbundled hclear hcheck hbundle
    · rw [Action.result_bind_of_ok (Action.result_blame_of_ok hbundle)]
      exact .judged hclear hcheck hbundle (verdict_adopt working recipe result bundled)

end Bundle

end ScriptEmbed
