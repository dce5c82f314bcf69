import TxGateway.Address

/-!
# What the chain tells about a mined transaction
-/

namespace TxGateway

/-- The outcome of a mined transaction. -/
structure Receipt where
  /-- The block that holds the transaction. -/
  blockNumber : Option Nat
  /-- The gas that was burnt. -/
  gasUsed : Word
  /-- Whether the transaction ran without being reverted. -/
  success : Bool
  /-- The price paid for each unit of gas. -/
  effectiveGasPrice : Option Word
  deriving DecidableEq, Repr

/-- The body of a transaction as a node knows it, mined or not. -/
structure TransactionBody where
  /-- The account that signed it. -/
  sender : Address
  /-- Its nonce. -/
  nonce : Nat
  /-- The most gas that it may burn. -/
  gasLimit : Word
  /-- The block that holds it, once mined. -/
  blockNumber : Option Nat
  deriving DecidableEq, Repr

end TxGateway
