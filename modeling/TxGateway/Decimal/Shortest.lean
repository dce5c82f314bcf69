import TxGateway.Decimal.Binary

/-!
# Shortest decimals of large whole numbers

A whole number is rounded to a binary number with 53 significant bits, ties to the even one. Its
shortest decimal is the number with the fewest significant digits among those that round to the
same binary number; of two such numbers with equally many digits it is the nearer one.
-/

namespace TxGateway.Decimal

/-- Whether a number, doubled, lies among those that round to a binary number. -/
def roundsTo (b : Binary) (n : Nat) : Bool :=
  let unit := Nat.pow 2 b.doublings
  let distance := if b.toNat ≤ n then n - b.toNat else b.toNat - n
  2 * distance < unit || (2 * distance == unit && b.significand % 2 == 0)

/-- The multiple of `step` nearest to a binary number, if it rounds to it. -/
def onGrid? (b : Binary) (step : Nat) : Option Nat :=
  let below := b.toNat / step * step
  let above := below + step
  match roundsTo b below, roundsTo b above with
  | true, true => some (if b.toNat - below ≤ above - b.toNat then below else above)
  | true, false => some below
  | false, true => some above
  | false, false => none

/-- The first hit on the grids with steps `10 ^ zeros`, `10 ^ (zeros - 1)`, …, 1. -/
def coarsest (b : Binary) : (zeros : Nat) → Nat
  | 0 => b.toNat
  | zeros + 1 => (onGrid? b (Nat.pow 10 (zeros + 1))).getD (coarsest b zeros)

/-- The shortest decimal of a whole number, written without exponent. -/
def shortest (n : Nat) : Nat :=
  if n < Nat.pow 2 53 then n
  else coarsest (Binary.nearest n) (Nat.toDigits 10 n).length

end TxGateway.Decimal
