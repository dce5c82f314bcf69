import TxGateway.Transaction

/-!
# Gas

How much is added to the price that the chain reports before a transaction is signed, and how a
mined receipt is read. Price arithmetic is exact: a price outside of the words has no value.
-/

namespace TxGateway

/-- The gas rules of a gateway. -/
structure GasPolicy where
  /-- Percentage added to a reported price. -/
  bufferPercent : Nat := 10
  /-- Percentage of the gas limit that a reverted transaction must exceed to count as out of
  gas. -/
  outOfGasPercent : Nat := 90
  deriving DecidableEq, Repr

namespace GasPolicy

/-- A price with a percentage of it added, rounded down. -/
def raise? (percent : Nat) (price : Word) : Option Word :=
  if price.toNat * percent < Nat.pow 2 256 then
    Word.ofNat? (price.toNat + price.toNat * percent / 100)
  else none

/-- The price to sign with; `none` where a product or a sum is no word. -/
def buffered? (g : GasPolicy) : Price → Option Price
  | .legacy price => (raise? g.bufferPercent price).map .legacy
  | .dynamic maxFee maxPriorityFee => do
    let fee ← raise? g.bufferPercent maxFee
    let tip ← raise? g.bufferPercent maxPriorityFee
    pure (.dynamic fee tip)

/-- The status of a mined transaction with a given gas limit. -/
def classify (g : GasPolicy) (receipt : Receipt) (gasLimit : Word) : Status :=
  if receipt.success then .confirmed receipt
  else if gasLimit = 0 then .failed receipt
  else
    let used := Word.saturatingMul receipt.gasUsed (BitVec.ofNat 256 100)
    let threshold := Word.saturatingMul gasLimit (BitVec.ofNat 256 g.outOfGasPercent)
    if threshold.toNat < used.toNat then .outOfGas receipt else .failed receipt

/-- The most that a transaction can cost, if that is a word. -/
def cost? (gasLimit : Word) : Price → Option Word
  | .legacy price => Word.mul? gasLimit price
  | .dynamic maxFee _ => Word.mul? gasLimit maxFee

end GasPolicy

end TxGateway
