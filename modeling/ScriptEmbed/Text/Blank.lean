/-!
Text is a list of characters. A character is blank when it has the Unicode property
`White_Space`; trimming removes the blanks at either end and nothing else.
-/

set_option autoImplicit false
set_option relaxedAutoImplicit false

namespace ScriptEmbed

abbrev Text := List Char

namespace Text

/-- The property `White_Space`, which has 25 members. -/
def isBlank (c : Char) : Bool :=
  let n := c.toNat
  (9 ≤ n && n ≤ 13) || n == 0x20 || n == 0x85 || n == 0xA0 || n == 0x1680 ||
    (0x2000 ≤ n && n ≤ 0x200A) || n == 0x2028 || n == 0x2029 || n == 0x202F ||
    n == 0x205F || n == 0x3000

/-- A text of blanks only, the empty one included. -/
def allBlank (text : Text) : Bool := text.all isBlank

def trimStart (text : Text) : Text := text.dropWhile isBlank

/-- Removes the longest run at the end whose characters all satisfy `drop`. -/
def dropEndWhile (drop : Char → Bool) (text : Text) : Text :=
  (text.reverse.dropWhile drop).reverse

def trimEnd (text : Text) : Text := dropEndWhile isBlank text

def trim (text : Text) : Text := trimEnd (trimStart text)

/-- A number in decimal digits, without leading zeros. -/
def ofNat (n : Nat) : Text := Nat.toDigits 10 n

theorem dropEndWhile_append_singleton (drop : Char → Bool) (text : Text) (c : Char) :
    dropEndWhile drop (text ++ [c]) =
      if drop c then dropEndWhile drop text else text ++ [c] := by
  by_cases h : drop c = true <;> simp [dropEndWhile, h]

end Text

end ScriptEmbed
