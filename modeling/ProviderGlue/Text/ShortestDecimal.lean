/-!
# Shortest decimals

The decimal number with the fewest digits that reads back as a given binary floating point number.
A double is `m · 2^q`; the numbers that round to it form an interval around it, whose ends belong to
it when `m` is even.  Of the decimal grids `…, 10, 1, 1/10, …` the coarsest with a point in the
interval gives the answer, and of its points the nearest.
-/

namespace ProviderGlue.Text

/-- A positive number `digits · 10^exponent`. -/
structure Decimal where
  /-- The digits. -/
  digits : Nat
  /-- The power of ten. -/
  exponent : Int

/-- A positive number `significand · 2^exponent`, with the distance to the next smaller one. -/
structure Binary where
  /-- The significand. -/
  significand : Nat
  /-- The power of two. -/
  exponent : Int
  /-- Whether the next smaller number is only half as far away as the next greater one. -/
  closeBelow : Bool

namespace Binary

/-- The magnitude of a finite double. -/
def ofBits (bits : Nat) : Binary :=
  let fraction := bits % 0x10000000000000
  let scale : Nat := bits / 0x10000000000000 % 0x800
  if scale = 0 then ⟨fraction, -1074, false⟩
  else ⟨0x10000000000000 + fraction, (scale : Int) - 1075, fraction = 0 && scale > 1⟩

/-- `base ^ e` as a fraction. -/
def power (base : Nat) (e : Int) : Nat × Nat :=
  (base.pow e.toNat, base.pow (-e).toNat)

/-- The point of the grid `10^k` that rounds to the number, the nearest if there are two. -/
def onGrid? (b : Binary) (k : Int) : Option Decimal :=
  let (up, down) := power 2 (b.exponent - 2)
  let (tenUp, tenDown) := power 10 k
  let quarters (n : Nat) : Nat := n * up * tenDown
  let point (c : Nat) : Nat := c * tenUp * down
  let value := quarters (4 * b.significand)
  let low := quarters (4 * b.significand - if b.closeBelow then 1 else 2)
  let high := quarters (4 * b.significand + 2)
  let within (c : Nat) : Bool :=
    if b.significand % 2 = 0 then low ≤ point c && point c ≤ high
    else low < point c && point c < high
  let below := value / (tenUp * down)
  let belowIn := 0 < below && within below
  let aboveIn := within (below + 1)
  let c :=
    if belowIn && aboveIn then
      (if value - point below ≤ point (below + 1) - value then below else below + 1)
    else if belowIn then below else below + 1
  if belowIn || aboveIn then some ⟨c, k⟩ else none

/-- The shortest decimal that rounds to the number. -/
def shortest (b : Binary) : Decimal :=
  ((List.range 650).findSome? fun (i : Nat) => b.onGrid? (309 - (i : Int))).getD ⟨0, 0⟩

end Binary

end ProviderGlue.Text
