import ScriptEmbed.Text.Blank
import ScriptEmbed.Text.Properties

/-!
A text in double quotes for a message: quotes, backslashes and the common controls are escaped,
and so is, by its code point, every character that would not be seen on its own.
-/

set_option autoImplicit false
set_option relaxedAutoImplicit false

namespace ScriptEmbed.Text

/-- A number in hexadecimal digits, without leading zeros. -/
def hexOfNat (n : Nat) : Text := Nat.toDigits 16 n

def escapeChar (c : Char) : Text :=
  if c = '\x00' then ['\\', '0']
  else if c = '\t' then ['\\', 't']
  else if c = '\r' then ['\\', 'r']
  else if c = '\n' then ['\\', 'n']
  else if c = '"' ∨ c = '\\' then ['\\', c]
  else if isVisible c then [c]
  else '\\' :: 'u' :: '\x7b' :: hexOfNat c.toNat ++ ['\x7d']

def quoted (text : Text) : Text := '"' :: text.flatMap escapeChar ++ ['"']

end ScriptEmbed.Text
