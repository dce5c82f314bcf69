/-!
# Binary numbers

A whole number is approximated by a binary number with 53 significant bits, ties to the even one.
-/

namespace TxGateway.Decimal

/-- A binary number: a significand and how often it is doubled. -/
structure Binary where
  /-- The significand. -/
  significand : Nat
  /-- The number of doublings. -/
  doublings : Nat
  deriving DecidableEq, Repr

namespace Binary

/-- The denoted number. -/
def toNat (b : Binary) : Nat := b.significand * Nat.pow 2 b.doublings

/-- The nearest binary number with at most 53 significant bits, ties to the even significand. -/
def nearest (n : Nat) : Binary :=
  let doublings := n.log2 + 1 - 53
  let unit := Nat.pow 2 doublings
  let floor := n / unit
  let rest := 2 * (n % unit)
  let up := unit < rest ∨ (rest = unit ∧ floor % 2 = 1)
  ⟨if up then floor + 1 else floor, doublings⟩

end Binary

/-- The least whole number that lies beyond the binary numbers of double precision: it is as near to
the first power of two that is none of them as to the greatest of them. -/
def overflowBound : Nat := Nat.pow 2 1024 - Nat.pow 2 970

end TxGateway.Decimal
