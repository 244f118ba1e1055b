import ScriptEmbed.Text.Control

/-!
Styled text: pieces of text, some of which have a style. With colour a style's escape sequences
stand around its piece; without it the controls are taken out again, and with them those that the
pieces bring themselves.
-/

set_option autoImplicit false
set_option relaxedAutoImplicit false

namespace ScriptEmbed

inductive Style
  | heading
  /-- What is typed as it stands. -/
  | literal
  | valid
  | invalid
  | error
  deriving DecidableEq

/-- The parameters of the escape sequences that begin a style. -/
def Style.parameters : Style → List Text
  | .heading => [['1'], ['4']]
  | .literal => [['1']]
  | .valid => [['3', '2']]
  | .invalid => [['3', '3']]
  | .error => [['1'], ['3', '1']]

def Style.begin (style : Style) : Text :=
  style.parameters.flatMap fun parameter ↦ "\x1b[".toList ++ parameter ++ ['m']

structure Span where
  style : Option Style
  text : Text
  deriving DecidableEq

def Span.colored (span : Span) : Text :=
  match span.style with
  | none => span.text
  | some style => style.begin ++ span.text ++ "\x1b[0m".toList

abbrev Styled := List Span

namespace Styled

def unstyled (text : Text) : Styled := [⟨none, text⟩]

def ofStyle (style : Style) (text : Text) : Styled := [⟨some style, text⟩]

def colored (styled : Styled) : Text := styled.flatMap Span.colored

/-- The text as a value: layout breaks off the sequences that the pieces bring. -/
def plain (styled : Styled) : Text := Text.Control.strip .breaksOff styled.colored

/-- The text as a stream gets it: without colour, layout suspends those sequences. -/
def written (color : Bool) (styled : Styled) : Text :=
  if color then styled.colored else Text.Control.strip .suspends styled.colored

end Styled

end ScriptEmbed
