import ScriptEmbed.Decimal.Shortest
import ScriptEmbed.Text.Blank

/-!
Writing a binary64 number as text. A style says where the decimal point may stand for the number
to be written out in full; any other number gets one digit, the point, and an exponent with its
sign.
-/

set_option autoImplicit false
set_option relaxedAutoImplicit false

namespace ScriptEmbed.Decimal

/-- The places of the decimal point, counted from before the first digit, between which a number
is written out in full. -/
structure Style where
  leastPoint : Int
  greatestPoint : Int

/-- A point after the first digit, if there are more. -/
def mantissa : Text → Text
  | [] => []
  | [digit] => [digit]
  | digit :: digits => digit :: '.' :: digits

def exponentText (exponent : Int) : Text :=
  (if exponent < 0 then '-' else '+') :: Text.ofNat exponent.natAbs

def Style.write (style : Style) (x : Numeral) : Text :=
  let digits := Text.ofNat x.digits
  let point := (digits.length : Int) + x.exponent
  if style.leastPoint ≤ point ∧ point ≤ style.greatestPoint then
    if 0 ≤ x.exponent then digits ++ List.replicate x.exponent.toNat '0' ++ ".0".toList
    else if 0 < point then digits.take point.toNat ++ '.' :: digits.drop point.toNat
    else "0.".toList ++ List.replicate (-point).toNat '0' ++ digits
  else mantissa digits ++ 'e' :: exponentText (point - 1)

/-- The bit that is set where a number is negative. -/
def signBit : Nat := 0x8000000000000000

/-- A finite number, with its sign; zero has one too. -/
def Style.writeFloat (style : Style) (x : Float) : Text :=
  let bits := x.toBits.toNat
  let sign := if bits < signBit then [] else ['-']
  let fields := bits % signBit
  if fields = 0 then sign ++ "0.0".toList
  else sign ++ style.write
    (shortest (Binary.ofFields (fields % leastNormal) (fields / leastNormal)))

end ScriptEmbed.Decimal
