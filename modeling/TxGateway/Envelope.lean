import TxGateway.Crypto.Signature
import TxGateway.Rlp
import TxGateway.Transaction

/-!
# Transactions as the chain reads them

A transaction with one price is a list in which the chain's number takes part in the signature; one
with a ceiling and a tip is a list behind the byte two.
-/

namespace TxGateway

/-- A transaction ready to be signed. -/
structure Envelope where
  /-- The number of the chain. -/
  chainId : Nat
  /-- The nonce. -/
  nonce : Nat
  /-- The price of gas. -/
  price : Price
  /-- What is sent. -/
  payload : Payload
  deriving DecidableEq, Repr

namespace Envelope

open Rlp

/-- The gas limit, the recipient, the value and the data, in this order. -/
def payloadItems (p : Payload) : List Item :=
  [.ofNat p.gasLimit.toNat, .bytes p.recipient.toBytes, .ofNat p.value.toNat, .bytes p.data]

/-- The byte in front of a transaction with a ceiling and a tip. -/
def dynamicMark : UInt8 := 0x02

/-- The items that both forms of a transaction begin with. -/
def bodyItems (e : Envelope) : List Item :=
  match e.price with
  | .legacy price => [.ofNat e.nonce, .ofNat price.toNat] ++ payloadItems e.payload
  | .dynamic maxFee maxPriorityFee =>
    [.ofNat e.chainId, .ofNat e.nonce, .ofNat maxPriorityFee.toNat, .ofNat maxFee.toNat]
      ++ payloadItems e.payload ++ [.list []]

/-- What is signed. -/
def unsigned (e : Envelope) : Bytes :=
  match e.price with
  | .legacy _ =>
    (Item.list (e.bodyItems ++ [.ofNat e.chainId, .ofNat 0, .ofNat 0])).encode
  | .dynamic .. => dynamicMark :: (Item.list e.bodyItems).encode

/-- The digest that is signed. -/
def digest (e : Envelope) : Bytes := Keccak.hash e.unsigned

/-- The bit of a signature as a number. -/
def parity (s : Signature) : Nat := if s.odd then 1 else 0

/-- The bytes that a node takes. -/
def signed (e : Envelope) (s : Signature) : Bytes :=
  match e.price with
  | .legacy _ =>
    (Item.list (e.bodyItems
      ++ [.ofNat (35 + 2 * e.chainId + parity s), .ofNat s.r, .ofNat s.s])).encode
  | .dynamic .. =>
    dynamicMark :: (Item.list (e.bodyItems
      ++ [.ofNat (parity s), .ofNat s.r, .ofNat s.s])).encode

end Envelope

end TxGateway
