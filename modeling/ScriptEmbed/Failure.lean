import ScriptEmbed.Bundle.Splice
import ScriptEmbed.Files.Error
import ScriptEmbed.Files.Path
import ScriptEmbed.Tool.Result

/-!
Why a run of the pipeline fails. Every failure belongs to one stage and ends the run.
-/

set_option autoImplicit false
set_option relaxedAutoImplicit false

namespace ScriptEmbed

open Files

/-- Why a tool's stage fails: it could not do its work, or it ended without success. -/
inductive ToolFault
  | unable (chain : Chain)
  | unsuccessful
  deriving DecidableEq

/-- Why no bundle is generated. -/
inductive BundleFault
  | unable (chain : Chain)
  | errorsReported (count : Nat)
  | unsuccessful
  | unwrappable (cause : Bundle.SpliceError)
  deriving DecidableEq

inductive Failure
  | install (fault : ToolFault)
  | bundle (fault : BundleFault)
  | artifact (path : Path) (cause : FileError)
  | host (fault : ToolFault)
  deriving DecidableEq

inductive Stage
  | install
  | bundle
  | hostBuild
  deriving DecidableEq

def Stage.name : Stage → Text
  | .install => "install".toList
  | .bundle => "bundle".toList
  | .hostBuild => "host-build".toList

def Bundle.SpliceError.message : Bundle.SpliceError → Text
  | .tooShort segments =>
    "unexpected bundle layout: ".toList ++ Text.ofNat segments ++
      " line(s), expected at least ".toList ++
      Text.ofNat (Bundle.preambleSegments + Bundle.epilogueSegments)
  | .wrapperNotFound => "unexpected bundle layout: IIFE wrapper not found".toList

/-- The failure of a run whose bundle cannot be wrapped. -/
def Bundle.SpliceError.failure (cause : Bundle.SpliceError) : Failure :=
  .bundle (.unwrappable cause)

def BundleFault.message : BundleFault → Text
  | .unable chain => chain.joined
  | .errorsReported count =>
    "esbuild reported ".toList ++ Text.ofNat count ++ " error(s)".toList
  | .unsuccessful => "esbuild exited with a non-zero status".toList
  | .unwrappable cause => cause.message

/-- The message of a fault, given the words for a tool that ended without success. -/
def ToolFault.message (unsuccessful : Text) : ToolFault → Text
  | .unable chain => chain.joined
  | .unsuccessful => unsuccessful

namespace Failure

def stage : Failure → Stage
  | .install _ => .install
  | .bundle _ | .artifact .. => .bundle
  | .host _ => .hostBuild

def message : Failure → Text
  | .install fault =>
    "Dependency installation failed: ".toList ++
      fault.message "npm install exited with a non-zero status".toList
  | .bundle fault => "Bundle generation failed: ".toList ++ fault.message
  | .artifact path cause =>
    "Bundle I/O failed for ".toList ++ path ++ ": ".toList ++ cause.message
  | .host fault =>
    "Host binary build failed: ".toList ++
      fault.message "cargo build exited with a non-zero status".toList

end Failure

end ScriptEmbed
