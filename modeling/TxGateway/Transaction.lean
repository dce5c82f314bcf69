import TxGateway.Receipt
import TxGateway.Timestamp

/-!
# Transactions

What a client asks to be sent, what has been sent, and what is known about it since.
-/

namespace TxGateway

/-- A transaction before a nonce and a price are attached. -/
structure Payload where
  /-- The account or contract that is called. -/
  recipient : Address
  /-- The call data. -/
  data : Bytes
  /-- The amount that is sent along. -/
  value : Word
  /-- The most gas that may be burnt. -/
  gasLimit : Word
  deriving DecidableEq, Repr

namespace Payload

/-- The first four bytes of the call data of a token approval. -/
def approvalSelector : Bytes := [0x09, 0x5e, 0xa7, 0xb3]

/-- Call data of a token approval: the selector, the spender in 32 bytes with zeros in front, the
amount in 32 bytes. -/
def approvalData (spender : Address) (amount : Word) : Bytes :=
  approvalSelector ++ Bytes.ofNat 32 spender.bits.toNat ++ amount.toBytes

/-- Lets a spender move a token of the sender; without an amount, any amount. -/
def approval (token spender : Address) (amount : Option Word) (gasLimit : Word) : Payload where
  recipient := token
  data := approvalData spender (amount.getD Word.greatest)
  value := 0
  gasLimit := gasLimit

end Payload

/-- What is paid for a unit of gas. -/
inductive Price
  /-- One price for everything. -/
  | legacy (price : Word)
  /-- A ceiling for the whole price and a tip for the miner. -/
  | dynamic (maxFee maxPriorityFee : Word)
  deriving DecidableEq, Repr

/-- How the nonce of a submission is chosen. -/
inductive NonceChoice
  /-- The next one that is free. -/
  | next
  /-- The one that the caller names. -/
  | named (nonce : Nat)
  deriving DecidableEq, Repr

/-- A transaction that a client wants to be sent. -/
structure Request where
  /-- The account that signs. -/
  account : Address
  /-- What is sent. -/
  payload : Payload
  /-- How its nonce is chosen. -/
  choice : NonceChoice := .next
  deriving DecidableEq, Repr

/-- The serial number of a submission. Only distinctness matters. -/
structure SubmissionId where
  /-- The number. -/
  serial : Nat
  deriving DecidableEq, Repr

/-- A transaction that has been handed to the node. -/
structure Submission where
  /-- Its serial number. -/
  id : SubmissionId
  /-- The account that signed. -/
  account : Address
  /-- The nonce it uses. -/
  nonce : Nat
  /-- The hash by which it is known. -/
  hash : TxHash
  deriving DecidableEq, Repr

/-- What is known about a sent transaction. -/
inductive Status
  /-- Neither mined nor given up. -/
  | pending
  /-- Mined and executed. -/
  | confirmed (receipt : Receipt)
  /-- Mined and reverted for another reason than gas. -/
  | failed (receipt : Receipt)
  /-- Mined and reverted after burning most of its gas. -/
  | outOfGas (receipt : Receipt)
  /-- The node does not know it any more. -/
  | dropped
  deriving DecidableEq, Repr

namespace Status

/-- Whether nothing more is expected. -/
def isFinal : Status → Bool
  | pending => false
  | _ => true

/-- The receipt of a mined transaction. -/
def receipt? : Status → Option Receipt
  | confirmed r | failed r | outOfGas r => some r
  | pending | dropped => none

/-- The name of a status. -/
def label : Status → String
  | pending => "pending"
  | confirmed _ => "confirmed"
  | failed _ => "failed"
  | outOfGas _ => "out_of_gas"
  | dropped => "dropped"

/-- The name of a status in structured data. -/
def tag : Status → String
  | pending => "PENDING"
  | confirmed _ => "CONFIRMED"
  | failed _ => "FAILED"
  | outOfGas _ => "OUT_OF_GAS"
  | dropped => "DROPPED"

/-- The status with a given name; the three mined ones need a receipt. -/
def ofLabel? (label : String) (receipt : Option Receipt) : Option Status :=
  if label = "pending" then some pending
  else if label = "dropped" then some dropped
  else match receipt with
    | none => none
    | some r =>
      if label = "confirmed" then some (confirmed r)
      else if label = "failed" then some (failed r)
      else if label = "out_of_gas" then some (outOfGas r)
      else none

end Status

/-- A sent transaction and what is known about it. -/
structure Record where
  /-- The serial number of its submission. -/
  id : SubmissionId
  /-- The hash by which it is known. -/
  hash : TxHash
  /-- The account that signed. -/
  account : Address
  /-- The nonce it uses. -/
  nonce : Nat
  /-- When it was sent. -/
  submittedAt : Timestamp
  /-- What is known about it. -/
  status : Status
  /-- When its status was last asked for. -/
  lastPolledAt : Option Timestamp
  deriving DecidableEq, Repr

namespace Record

/-- The record of a submission that has just been sent. -/
def fresh (now : Timestamp) (s : Submission) : Record where
  id := s.id
  hash := s.hash
  account := s.account
  nonce := s.nonce
  submittedAt := now
  status := .pending
  lastPolledAt := none

/-- Whether the outcome is still open. -/
def isLive (r : Record) : Bool := !r.status.isFinal

/-- When the record was last looked at. -/
def touchedAt (r : Record) : Timestamp := r.lastPolledAt.getD r.submittedAt

end Record

end TxGateway
