import ScriptEmbed.Diagnostic.Basic

/-!
Reading an engine's lines one at a time. At most one record is open. A header line closes it and
opens the next; a line that is not indented closes it and is passed through; blank lines are
dropped and indented ones become its notes. With no record open, a line that is no header is
passed through.
-/

set_option autoImplicit false
set_option relaxedAutoImplicit false

namespace ScriptEmbed.Diagnostic

/-- The record that is open, if any. -/
abbrev Reader := Option Diagnostic

/-- What a line led to: the record that it closed, and whether it is passed through. -/
structure Feed where
  completed : Option Diagnostic := none
  passthrough : Bool := false
  deriving DecidableEq

namespace Reader

/-- One line: what it leads to, and the reader after it. -/
def feed (reader : Reader) (line : Text) : Feed × Reader :=
  match header? line with
  | some next => (⟨reader, false⟩, some next)
  | none =>
    match reader with
    | none => (⟨none, true⟩, none)
    | some current =>
      if Text.allBlank line then (⟨none, false⟩, some current)
      else if line.head?.any Text.isBlank then
        (⟨none, false⟩, some { current with notes := current.notes ++ [Text.trimEnd line] })
      else (⟨some current, true⟩, none)

/-- The end of the lines: the record still open is complete. -/
def finish (reader : Reader) : Option Diagnostic × Reader := (reader, none)

end Reader

end ScriptEmbed.Diagnostic
