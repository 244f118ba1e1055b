import ScriptEmbed.Text.Blank

/-!
A bundling engine's messages: warnings and errors, each with a message and the indented lines that
came with it. A line opens a record when it holds a marker with at most one character, the blanks
around it apart, in front.
-/

set_option autoImplicit false
set_option relaxedAutoImplicit false

namespace ScriptEmbed

inductive Severity
  | warning
  | error
  deriving DecidableEq

/-- What marks a header line of this severity. -/
def Severity.marker : Severity → Text
  | .warning => "[WARNING]".toList
  | .error => "[ERROR]".toList

structure Diagnostic where
  severity : Severity
  message : Text
  notes : List Text
  deriving DecidableEq

namespace Diagnostic

def isError (record : Diagnostic) : Bool := record.severity == .error

/-- What follows `marker` in a text that starts with it. -/
def afterMarker? : Text → Text → Option Text
  | [], text => some text
  | _ :: _, [] => none
  | m :: marker, c :: text => if m = c then afterMarker? marker text else none

/-- Looks for the first occurrence of a marker, with the characters passed so far in reverse. -/
def breakOnFrom (marker passed : Text) : Text → Option (Text × Text)
  | [] => (afterMarker? marker []).map fun after ↦ (passed.reverse, after)
  | c :: text =>
    match afterMarker? marker (c :: text) with
    | some after => some (passed.reverse, after)
    | none => breakOnFrom marker (c :: passed) text

/-- The texts before and after the first occurrence of a marker. -/
def breakOn (marker text : Text) : Option (Text × Text) := breakOnFrom marker [] text

/-- The record that a line opens at the first marker of one severity. -/
def headerAs? (severity : Severity) (line : Text) : Option Diagnostic :=
  match breakOn severity.marker line with
  | none => none
  | some (before, after) =>
    if (Text.trim before).length ≤ 1 then some ⟨severity, Text.trim after, []⟩ else none

/-- The record that a header line opens. -/
def header? (line : Text) : Option Diagnostic :=
  (headerAs? .error line).or (headerAs? .warning line)

end Diagnostic

end ScriptEmbed
