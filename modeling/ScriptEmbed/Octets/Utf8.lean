import ScriptEmbed.Text.Blank

/-!
UTF-8, read one octet at a time. Reading yields a piece for each character and one for each
maximal malformed stretch: the longest run of octets that begins some character and cannot be
continued to one, or a single octet that begins none. Lossy reading writes U+FFFD for a malformed
piece; strict reading refuses it.
-/

set_option autoImplicit false
set_option relaxedAutoImplicit false

namespace ScriptEmbed

abbrev Octets := List UInt8

namespace Octets

def encodeChar (c : Char) : Octets :=
  let n := c.toNat
  if n < 0x80 then [n.toUInt8]
  else if n < 0x800 then [(0xC0 + n / 64).toUInt8, (0x80 + n % 64).toUInt8]
  else if n < 0x10000 then
    [(0xE0 + n / 4096).toUInt8, (0x80 + n / 64 % 64).toUInt8, (0x80 + n % 64).toUInt8]
  else
    [(0xF0 + n / 262144).toUInt8, (0x80 + n / 4096 % 64).toUInt8, (0x80 + n / 64 % 64).toUInt8,
      (0x80 + n % 64).toUInt8]

def ofText (text : Text) : Octets := text.flatMap encodeChar

/-- Where reading stands between two octets. -/
inductive State
  /-- Between characters. -/
  | start
  /-- Inside a character: the value of the octets so far, how many are still owed (at least one),
  and the least and the greatest that the next one may be. -/
  | within (value owed low high : Nat)
  deriving DecidableEq

/-- What was read: a character, or `none` for a malformed stretch. -/
abbrev Piece := Option Char

/-- An octet between two characters. -/
def first (octet : UInt8) : State × List Piece :=
  let n := octet.toNat
  if n < 0x80 then (.start, [some (Char.ofNat n)])
  else if n < 0xC2 then (.start, [none])
  else if n < 0xE0 then (.within (n - 0xC0) 1 0x80 0xBF, [])
  else if n = 0xE0 then (.within 0 2 0xA0 0xBF, [])
  else if n = 0xED then (.within 0xD 2 0x80 0x9F, [])
  else if n < 0xF0 then (.within (n - 0xE0) 2 0x80 0xBF, [])
  else if n = 0xF0 then (.within 0 3 0x90 0xBF, [])
  else if n < 0xF4 then (.within (n - 0xF0) 3 0x80 0xBF, [])
  else if n = 0xF4 then (.within 4 3 0x80 0x8F, [])
  else (.start, [none])

/-- One octet. An octet that does not continue the character begun ends a malformed stretch and is
read again as the first of what follows. -/
def step : State → UInt8 → State × List Piece
  | .start, octet => first octet
  | .within value owed low high, octet =>
    if low ≤ octet.toNat ∧ octet.toNat ≤ high then
      let value := value * 64 + (octet.toNat - 0x80)
      if owed = 1 then (.start, [some (Char.ofNat value)])
      else (.within value (owed - 1) 0x80 0xBF, [])
    else
      let (state, pieces) := first octet
      (state, none :: pieces)

/-- The end of the octets: a character left unfinished is malformed. -/
def finish : State → List Piece
  | .start => []
  | .within .. => [none]

/-- Reads on from a state, with the pieces read so far in reverse. -/
def readOnto : State → List Piece → Octets → List Piece
  | state, read, [] => ((finish state).reverse ++ read).reverse
  | state, read, octet :: rest =>
    let (next, pieces) := step state octet
    readOnto next (pieces.reverse ++ read) rest

/-- The pieces of a stream of octets, in order. -/
def pieces (octets : Octets) : List Piece := readOnto .start [] octets

/-- The text with U+FFFD for each malformed piece. -/
def toTextLossy (octets : Octets) : Text := (pieces octets).map fun piece ↦ piece.getD '\uFFFD'

/-- The text, if no piece is malformed. -/
def toText? (octets : Octets) : Option Text := (pieces octets).mapM id

/-- The octet of a newline. -/
def newline : UInt8 := 10

/-- Puts one more octet in front of a list of lines. -/
def consLine (octet : UInt8) : List Octets → List Octets
  | [] => [[octet]]
  | first :: others => (octet :: first) :: others

/-- The octets cut after each newline; the last line may lack its newline. -/
def lines (octets : Octets) : List Octets :=
  octets.foldr (fun octet rest ↦ if octet = newline then [octet] :: rest else consLine octet rest) []

theorem readOnto_eq (state : State) (read : List Piece) (octets : Octets) :
    readOnto state read octets = read.reverse ++ readOnto state [] octets := by
  induction octets generalizing state read with
  | nil => simp [readOnto]
  | cons octet rest ih =>
    simp only [readOnto, List.append_nil]
    rw [ih, ih _ (step state octet).2.reverse]
    simp

theorem readOnto_cons (state : State) (octet : UInt8) (rest : Octets) :
    readOnto state [] (octet :: rest) =
      (step state octet).2 ++ readOnto (step state octet).1 [] rest := by
  simp only [readOnto, List.append_nil]
  rw [readOnto_eq]
  simp

theorem lines_cons (octet : UInt8) (rest : Octets) :
    lines (octet :: rest) =
      if octet = newline then [octet] :: lines rest else consLine octet (lines rest) := rfl

end Octets

end ScriptEmbed
