/-!
The shortest decimal that reads back as a given binary number: among all digits times powers of
ten that round to the number, those on the coarsest grid of powers of ten, and of two of them the
nearer one. The binary number is `significand * 2 ^ exponent`, both exact.
-/

set_option autoImplicit false
set_option relaxedAutoImplicit false

namespace ScriptEmbed.Decimal

/-- A finite binary64 number other than zero, without its sign. -/
structure Binary where
  significand : Nat
  exponent : Int

/-- The least significand that takes all 53 bits. -/
def leastNormal : Nat := 0x10000000000000

/-- The number that 52 bits of fraction and 11 bits of biased exponent stand for. -/
def Binary.ofFields (fraction biased : Nat) : Binary :=
  if biased = 0 then ⟨fraction, -1074⟩ else ⟨leastNormal + fraction, (biased : Int) - 1075⟩

/-- `digits * 10 ^ exponent`. -/
structure Numeral where
  digits : Nat
  exponent : Int

/-- The gap below a number is half as wide where its significand is the least of its size. -/
def Binary.gapIsNarrow (x : Binary) : Bool := x.significand == leastNormal && -1074 < x.exponent

/-- The points of the grid `10 ^ k` next to the number that round to it, the nearer first. All
quantities are quarters of the number's last place, scaled to be whole. -/
def neighbours (x : Binary) (k : Int) : List Nat :=
  let quarter := x.exponent - 2
  let grid := Nat.pow 10 k.toNat * Nat.pow 2 (-quarter).toNat
  let scale := Nat.pow 2 quarter.toNat * Nat.pow 10 (-k).toNat
  let value := 4 * x.significand * scale
  let low := value - (if x.gapIsNarrow then 1 else 2) * scale
  let high := value + 2 * scale
  let inside (c : Nat) : Bool :=
    if x.significand % 2 = 0 then low ≤ c * grid && c * grid ≤ high
    else low < c * grid && c * grid < high
  let below := value / grid
  let candidates :=
    if value - below * grid < (below + 1) * grid - value ||
        (value - below * grid == (below + 1) * grid - value && below % 2 == 0) then
      [below, below + 1]
    else
      [below + 1, below]
  candidates.filter inside

/-- The grids from coarse to fine that a binary64 number can need. -/
def grids : List Int := (List.range 660).map fun (i : Nat) ↦ (310 : Int) - i

def shortest (x : Binary) : Numeral :=
  (grids.findSome? fun k ↦ (neighbours x k).head?.map fun c ↦ (⟨c, k⟩ : Numeral)).getD ⟨0, 0⟩

end ScriptEmbed.Decimal
