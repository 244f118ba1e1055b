import ScriptEmbed.Collaborators

/-!
Generating the bundle. The artifact of an earlier run is removed before the engine is asked for
anything; the engine's records and its end are judged; what it left at the output path is wrapped
and written back there.
-/

set_option autoImplicit false
set_option relaxedAutoImplicit false

namespace ScriptEmbed.Bundle

open Files

/-- How a bundle is generated. -/
structure Recipe where
  spec : Spec
  signature : Signature := .standard
  placement : Placement := .fixed

/-- Removes the file at a path and says whether one was there. -/
def removeStale (working : Place) (path : Path) : Action Failure Bool := do
  match (← get).files.remove working path with
  | .ok files =>
    modify fun session ↦ { session with files := files }
    return true
  | .error cause => if cause = .notFound then return false else throw (.artifact path cause)

def removalNotice (path : Path) (removed : Bool) : List Event :=
  if removed then [.announced .info ("Removed previous bundle at ".toList ++ path)] else []

/-- Why the engine's result rules out that its output is used. -/
def rejection? (result : ToolResult) : Option BundleFault :=
  if 0 < result.errors.length then some (.errorsReported result.errors.length)
  else if !result.success then some .unsuccessful
  else none

def warningNotice (result : ToolResult) : List Event :=
  if 0 < result.warnings.length then
    [.announced .info
      ("esbuild finished with ".toList ++ Text.ofNat result.warnings.length ++
        " warning(s)".toList)]
  else []

/-- What is announced about a layout that is not the usual one. Lines are counted from one. -/
def layoutNotice (wrapped : Wrapped) : List Event :=
  match wrapped.layout with
  | .agrees => []
  | .disagrees bounds =>
    [.announced .warn
      ("IIFE wrapper found at lines ".toList ++ Text.ofNat (bounds.opening + 1) ++ "..".toList ++
        Text.ofNat (bounds.closing + 1) ++ ", fixed offsets assume lines 3..".toList ++
        Text.ofNat (wrapped.segments - 3))]
  | .unrecognized =>
    [.announced .warn "IIFE wrapper not recognized in bundle output".toList]

/-- Wraps the text at the output path in place. -/
def wrapInPlace (working : Place) (recipe : Recipe) : Action Failure Unit := do
  let output := recipe.spec.outputPath
  let raw ← (Action.orFail ((← get).files.readText working output)).blame (.artifact output)
  let wrapped ← (Action.orFail (wrap raw recipe.signature recipe.placement)).blame
    SpliceError.failure
  Action.happen (layoutNotice wrapped)
  (Action.change fun files ↦ files.write working output (.ofText wrapped.text)).blame
    (.artifact output)

/-- Wraps what the engine left and gives its path. -/
def takeOver (working : Place) (recipe : Recipe) : Action Failure Path := do
  wrapInPlace working recipe
  return recipe.spec.outputPath

/-- Takes over what the engine left, unless the engine's result rules it out. -/
def adopt (working : Place) (recipe : Recipe) (result : ToolResult) : Action Failure Path := do
  match rejection? result with
  | some fault => throw (.bundle fault)
  | none =>
    Action.happen (warningNotice result)
    takeOver working recipe

/-- Has the engine produce the bundle, where nothing is at the output path. -/
def produce (working : Place) (recipe : Recipe) (engine : Engine) : Action Failure Path := do
  Action.ask .checkEngine
  (engine.check recipe.spec).blame fun chain ↦ .bundle (.unable chain)
  Action.ask .bundle
  let result ← (engine.bundle recipe.spec).blame fun chain ↦ .bundle (.unable chain)
  adopt working recipe result

/-- Generates the bundle and gives its path. -/
def generate (working : Place) (recipe : Recipe) (engine : Engine) : Action Failure Path := do
  let output := recipe.spec.outputPath
  let removed ← removeStale working output
  Action.happen (removalNotice output removed)
  produce working recipe engine

end ScriptEmbed.Bundle
