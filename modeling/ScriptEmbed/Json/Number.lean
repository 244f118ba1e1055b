import ScriptEmbed.Json.Token

/-!
Numbers in a JSON text. Passing over one checks its form. Reading one gives an integer if it is
written as one and fits in 64 bits, and otherwise a binary64 number: the digits that fit in 64
bits, each further one only moving the point, times or divided by a power of ten.
-/

set_option autoImplicit false
set_option relaxedAutoImplicit false

namespace ScriptEmbed.Json

/-- A text without the sign that it may start with. -/
def dropSign : Text → Text
  | '+' :: text => text
  | '-' :: text => text
  | text => text

/-- The end of a number with an exponent, from its letter on. -/
def skipExponent (text : Text) : Except Fault Text :=
  let digits := dropSign (text.drop 1)
  if startsWithDigit digits then .ok (skipDigits digits) else .error (.peeked .invalidNumber digits)

def startsExponent (text : Text) : Bool := text.head?.any fun c ↦ c == 'e' || c == 'E'

def skipOptionalExponent (text : Text) : Except Fault Text :=
  if startsExponent text then skipExponent text else .ok text

/-- What may come after the digits before the point. -/
def skipFraction : Text → Except Fault Text
  | '.' :: text =>
    if startsWithDigit text then skipOptionalExponent (skipDigits text)
    else .error (.peeked .invalidNumber text)
  | text => skipOptionalExponent text

/-- Passes over a number without its sign. -/
def skipNumber : Text → Except Fault Text
  | '0' :: text =>
    if startsWithDigit text then .error (.peeked .invalidNumber text) else skipFraction text
  | text =>
    if startsWithDigit text then skipFraction (skipDigits text)
    else .error (.peeked .invalidNumber text)

/-! ### Values -/

/-- The greatest integer that is kept as one, and the greatest significand. -/
def maxUnsigned : Nat := 0xFFFFFFFFFFFFFFFF

def maxNegated : Nat := 0x8000000000000000

/-- Exponents above this one are not read on. -/
def maxExponent : Nat := 0x7FFFFFFF

/-- The greatest power of ten in binary64 range. -/
def greatestPower : Nat := 308

def powerOfTen (n : Nat) : Float := Float.ofScientific 1 false n

/-- Divides by the greatest power of ten as long as the exponent is below its reach, then by what
is left of it. -/
def scaleDown : Nat → Float → Nat → Float
  | 0, x, _ => x
  | fuel + 1, x, exponent =>
    if exponent ≤ greatestPower then x / powerOfTen exponent
    else if x == 0 then x
    else scaleDown fuel (x / powerOfTen greatestPower) (exponent - greatestPower)

/-- A significand times a power of ten, if that is in range. -/
def scaled? (significand : Nat) (exponent : Int) : Option Float :=
  let x := Float.ofNat significand
  if exponent < 0 then some (scaleDown exponent.natAbs x exponent.natAbs)
  else if exponent.toNat ≤ greatestPower then
    let y := x * powerOfTen exponent.toNat
    if y.isInf then none else some y
  else if significand = 0 then some x
  else none

def signed (negative : Bool) (x : Float) : Float := if negative then -x else x

def floatValue (negative : Bool) (significand : Nat) (exponent : Int) (rest : Text) :
    Reading Found :=
  match scaled? significand exponent with
  | some x => .ok (.float (signed negative x), rest)
  | none => .error ⟨.numberOutOfRange, rest, 0⟩

/-- The digits of an exponent, as long as its value stays in bounds, and what follows; the third
part is false where the value went out of bounds. -/
def exponentDigits (value : Nat) : Text → Nat × Text × Bool
  | [] => (value, [], true)
  | c :: text =>
    if isDigit c then
      let next := value * 10 + digitValue c
      if maxExponent < next then (value, text, false) else exponentDigits next text
    else (value, c :: text, true)

/-- The exponent of a number, from its letter on. -/
def exponentValue (negative : Bool) (significand : Nat) (start : Int) (text : Text) :
    Reading Found :=
  let down := (text.drop 1).head? == some '-'
  let digits := dropSign (text.drop 1)
  if digits.isEmpty then .error (.peeked .endInValue digits)
  else if startsWithDigit digits then
    match exponentDigits 0 digits with
    | (value, rest, true) =>
      floatValue negative significand (if down then start - value else start + value) rest
    | (_, rest, false) =>
      if significand ≠ 0 ∧ !down then .error ⟨.numberOutOfRange, rest, 0⟩
      else .ok (.float (signed negative 0), skipDigits rest)
  else .error (.peeked .invalidNumber digits)

def withOptionalExponent (negative : Bool) (significand : Nat) (exponent : Int) (rest : Text) :
    Reading Found :=
  if startsExponent rest then exponentValue negative significand exponent rest
  else floatValue negative significand exponent rest

/-- The digits that the significand takes in: its value, how many they are, and the rest. -/
def significandDigits (value count : Nat) : Text → Nat × Nat × Text
  | [] => (value, count, [])
  | c :: text =>
    if isDigit c && value * 10 + digitValue c ≤ maxUnsigned then
      significandDigits (value * 10 + digitValue c) (count + 1) text
    else (value, count, c :: text)

/-- The digits after the point. -/
def fractionValue (negative : Bool) (significand : Nat) (start : Int) (text : Text) :
    Reading Found :=
  if text.isEmpty then .error (.peeked .endInValue text)
  else if startsWithDigit text then
    let (value, count, rest) := significandDigits significand 0 text
    withOptionalExponent negative value (start - count) (skipDigits rest)
  else .error (.peeked .invalidNumber text)

/-- A number too long to be an integer, from the first digit that its significand leaves out. -/
def longValue (negative : Bool) (significand : Nat) (text : Text) : Reading Found :=
  let exponent : Int := (text.takeWhile isDigit).length
  match skipDigits text with
  | '.' :: rest => fractionValue negative significand exponent rest
  | rest => withOptionalExponent negative significand exponent rest

/-- What an integer's digits stand for; zero with a sign and an integer out of range are floating
point numbers. -/
def integerValue (negative : Bool) (value : Nat) : Found :=
  if !negative then .integer value
  else if 0 < value ∧ value ≤ maxNegated then .integer (-(value : Int))
  else .float (-(Float.ofNat value))

/-- What may come after the digits before the point. -/
def afterDigits (negative : Bool) (value : Nat) : Text → Reading Found
  | '.' :: text => fractionValue negative value 0 text
  | text =>
    if startsExponent text then exponentValue negative value 0 text
    else .ok (integerValue negative value, text)

/-- The value of a number without its sign. -/
def number (negative : Bool) : Text → Reading Found
  | [] => .error (.peeked .endInValue [])
  | '0' :: text =>
    if startsWithDigit text then .error (.peeked .invalidNumber text)
    else afterDigits negative 0 text
  | text =>
    if startsWithDigit text then
      let (value, _, rest) := significandDigits 0 0 text
      if startsWithDigit rest then longValue negative value rest
      else afterDigits negative value rest
    else .error (.peeked .invalidNumber text)

end ScriptEmbed.Json
