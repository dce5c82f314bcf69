import TxGateway.Settings

/-!
# Fees

The ceiling for a price follows from the base fee of the newest block: room for the base fee to
double, and the tip on top. The ceiling is cut at the greatest price that the operator allows.
-/

namespace TxGateway.Rpc.Fees

/-- A billion of the smallest units. -/
def gwei : Nat := 1000000000

/-- The tip. -/
def tip : Word := BitVec.ofNat 256 (2 * gwei)

/-- The greatest price that an operator allows. -/
def cap (maxGasPriceGwei : Nat) : Nat := maxGasPriceGwei * gwei

/-- The price for a base fee; none if twice the base fee and the tip are no word. -/
def price? (maxGasPriceGwei : Nat) (baseFee : Word) : Option Price := do
  let double ← Word.mul? baseFee (BitVec.ofNat 256 2)
  let fee ← Word.add? double tip
  pure (.dynamic (BitVec.ofNat 256 (min fee.toNat (cap maxGasPriceGwei))) tip)

end TxGateway.Rpc.Fees
