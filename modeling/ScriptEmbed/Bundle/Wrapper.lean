import ScriptEmbed.Text.Lines

/-!
Where a bundle's segments hold its outer function wrapper, and whether that is where a bundle of
the usual layout holds it: a preamble of three segments, the last of which opens the wrapper, and
an epilogue of two, the first of which closes it.
-/

set_option autoImplicit false
set_option relaxedAutoImplicit false

namespace ScriptEmbed.Bundle

/-- Segments before the bundled code in the usual layout. -/
def preambleSegments : Nat := 3

/-- Segments after the bundled code in the usual layout: the closing line and the empty segment
that the last newline leaves. -/
def epilogueSegments : Nat := 2

def openingWrappers : List Text :=
  ["(() => \x7b".toList, "(function() \x7b".toList, "(function () \x7b".toList]

def closingWrapper : Text := "\x7d)();".toList

def isOpening (segment : Text) : Bool := openingWrappers.contains (Text.trim segment)

def isClosing (segment : Text) : Bool := Text.trim segment == closingWrapper

/-- Zero-based indices of the segments that open and close the wrapper. -/
structure Bounds where
  opening : Nat
  closing : Nat
  deriving DecidableEq

/-- The index of the last element that satisfies `test`. -/
def lastIndex? {α : Type} (test : α → Bool) (xs : List α) : Option Nat :=
  (xs.reverse.findIdx? test).map fun fromEnd ↦ xs.length - 1 - fromEnd

/-- The first opening line and the last closing line, if they come in that order. -/
def detectWrapper (segments : List Text) : Option Bounds :=
  match segments.findIdx? isOpening, lastIndex? isClosing segments with
  | some opening, some closing => if opening < closing then some ⟨opening, closing⟩ else none
  | _, _ => none

/-- How the wrapper that was found relates to the usual layout. -/
inductive Layout
  | agrees
  | disagrees (bounds : Bounds)
  | unrecognized
  deriving DecidableEq

def checkLayout (segments : List Text) : Layout :=
  match detectWrapper segments with
  | none => .unrecognized
  | some bounds =>
    if bounds.opening + 1 = preambleSegments ∧
        bounds.closing + epilogueSegments = segments.length then
      .agrees
    else
      .disagrees bounds

end ScriptEmbed.Bundle
