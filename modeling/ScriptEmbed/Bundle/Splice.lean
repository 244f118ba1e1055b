import ScriptEmbed.Bundle.Wrapper
import ScriptEmbed.Signature

/-!
Wrapping a bundle: the header becomes a segment of its own after the wrapper's opening line and
the footer one before the closing line. Both are placed either at fixed offsets from the two ends
or at the wrapper that was detected.
-/

set_option autoImplicit false
set_option relaxedAutoImplicit false

namespace ScriptEmbed.Bundle

/-- How the places of the header and the footer are chosen. -/
inductive Placement
  | fixed
  | structural
  deriving DecidableEq

/-- Why a bundle cannot be wrapped. -/
inductive SpliceError
  | tooShort (segments : Nat)
  | wrapperNotFound
  deriving DecidableEq

structure Wrapped where
  text : Text
  /-- Segments after both insertions. -/
  segments : Nat
  headerIndex : Nat
  footerIndex : Nat
  /-- The layout of the bundle before it was wrapped. -/
  layout : Layout
  deriving DecidableEq

/-- Among the segments of a bundle, the one that the header comes before and the one that the
footer comes before. -/
def splicePoints (placement : Placement) (segments : List Text) :
    Except SpliceError (Nat × Nat) :=
  match placement with
  | .fixed =>
    if segments.length < preambleSegments + epilogueSegments then
      .error (.tooShort segments.length)
    else
      .ok (preambleSegments, segments.length - epilogueSegments)
  | .structural =>
    match detectWrapper segments with
    | none => .error .wrapperNotFound
    | some bounds => .ok (bounds.opening + 1, bounds.closing)

/-- The segments with a header put before segment `h` and a footer before segment `f`. -/
def spliceSegments (header footer : Text) (h f : Nat) (segments : List Text) : List Text :=
  segments.take h ++ header :: (segments.drop h).take (f - h) ++ footer :: segments.drop f

def wrap (raw : Text) (signature : Signature) (placement : Placement) :
    Except SpliceError Wrapped :=
  let segments := Text.segments raw
  match splicePoints placement segments with
  | .error e => .error e
  | .ok (h, f) =>
    let spliced := spliceSegments signature.header signature.footer h f segments
    .ok {
      text := Text.ofSegments spliced
      segments := spliced.length
      headerIndex := h
      footerIndex := f + 1
      layout := checkLayout segments }

end ScriptEmbed.Bundle
