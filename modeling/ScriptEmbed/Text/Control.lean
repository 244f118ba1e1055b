import ScriptEmbed.Octets.Utf8

/-!
Controls in a text: single control characters, and the sequences by which an escape character and
what follows it direct a terminal. Without them a text is what the terminal shows of it. The four
controls that lay text out stay, also where one interrupts a sequence that is not a string; what
becomes of that sequence is a choice.
-/

set_option autoImplicit false
set_option relaxedAutoImplicit false

namespace ScriptEmbed.Text.Control

/-- Where a character stands among the sequences of a text. -/
inductive Position
  | outside
  /-- After the escape character. -/
  | escape
  /-- After the escape character and others from the space to the slash. -/
  | intermediate
  /-- In a control sequence, which a character from the at sign on ends. -/
  | sequence
  /-- In a device control string, before anything else of it. -/
  | device
  | deviceParameter
  | deviceIntermediate
  /-- In the body of a string, which its terminator ends. -/
  | string
  /-- In an operating system command, which the bell ends too. -/
  | command
  deriving DecidableEq

/-- Tab, line feed, form feed and carriage return. -/
def isLayout (c : Char) : Bool := c = '\t' || c = '\n' || c = '\x0c' || c = '\r'

/-- Whether a character's UTF-8 has the octet that is the string terminator among the controls of
eight bits. -/
def hasTerminator (c : Char) : Bool := (Octets.encodeChar c).contains 0x9C

/-- Where the character after an escape character leads. -/
def afterEscape (c : Char) : Position :=
  if c = '[' then .sequence
  else if c = ']' then .command
  else if c = 'P' then .device
  else if c = 'X' ∨ c = '^' ∨ c = '_' then .string
  else if ' ' ≤ c ∧ c ≤ '/' then .intermediate
  else if '0' ≤ c ∧ c ≤ '~' then .outside
  else .escape

/-- Where the character after one that is left out stands. A new escape character, and the two
controls that cancel a sequence, count everywhere; other controls, and characters beyond ASCII,
are passed over inside a sequence. -/
def next (position : Position) (c : Char) : Position :=
  if c = '\x1b' then .escape
  else if c = '\x18' ∨ c = '\x1a' then .outside
  else
    match position with
    | .outside => .outside
    | .escape => afterEscape c
    | .intermediate => if '0' ≤ c ∧ c ≤ '~' then .outside else .intermediate
    | .sequence => if '@' ≤ c ∧ c ≤ '~' then .outside else .sequence
    | .device =>
      if ' ' ≤ c ∧ c ≤ '/' then .deviceIntermediate
      else if '0' ≤ c ∧ c ≤ '?' then .deviceParameter
      else if '@' ≤ c ∧ c ≤ '~' then .string
      else .device
    | .deviceParameter =>
      if ' ' ≤ c ∧ c ≤ '/' then .deviceIntermediate
      else if '<' ≤ c ∧ c ≤ '~' then .string
      else .deviceParameter
    | .deviceIntermediate => if '0' ≤ c ∧ c ≤ '~' then .string else .deviceIntermediate
    | .string => if hasTerminator c then .outside else .string
    | .command => if c = '\x07' then .outside else .command

/-- Whether a character remains. -/
def isShown (position : Position) (c : Char) : Bool :=
  match position with
  | .outside => isLayout c || (' ' ≤ c && c ≠ '\x7f')
  | .escape | .intermediate | .sequence => isLayout c
  | _ => false

/-- What becomes of a sequence when layout interrupts it and text follows. -/
inductive Interruption
  /-- It has ended. -/
  | breaksOff
  /-- It goes on at the next control, unless a character beyond ASCII came first. -/
  | suspends
  deriving DecidableEq

/-- Where a text stands in its sequences once a character has been shown. -/
def Interruption.position (interruption : Interruption) (position : Position) (c : Char) :
    Position :=
  match interruption with
  | .breaksOff => .outside
  | .suspends => if c.toNat < 0x80 then position else .outside

/-- What remains of a text that begins at a position. After a character that is shown, the next is
seen as it is outside every sequence. -/
def stripFrom (interruption : Interruption) (showing : Bool) (position : Position) : Text → Text
  | [] => []
  | c :: rest =>
    if isShown (if showing then .outside else position) c then
      c :: stripFrom interruption true (interruption.position position c) rest
    else stripFrom interruption false (next position c) rest

/-- What remains of a text without its controls. -/
def strip (interruption : Interruption) (text : Text) : Text :=
  stripFrom interruption false .outside text

end ScriptEmbed.Text.Control
