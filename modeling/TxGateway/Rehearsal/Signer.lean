import TxGateway.Query
import TxGateway.Rehearsal.Chain
import TxGateway.Wallet

/-!
# A signer for rehearsals

Either a wallet, or a scribe who writes down what he is asked to sign, with a running number, so
that no two of his texts are equal.
-/

namespace TxGateway.Rehearsal

/-- A signer that writes the request down. -/
structure Scribe where
  /-- The accounts that he says to hold. -/
  accounts : List Address := []
  /-- How many texts he has written. -/
  written : Nat := 0
  /-- Bytes that he gives instead. -/
  fixed : Option Bytes := none
  /-- Why he refuses. -/
  refusal : Option String := none
  deriving DecidableEq, Repr

namespace Scribe

/-- The words of a price. -/
def priceBytes : Price → Bytes
  | .legacy price => price.toBytes
  | .dynamic maxFee maxPriorityFee => maxFee.toBytes ++ maxPriorityFee.toBytes

/-- The text for a request: everything that is asked for, at fixed widths, the data last. -/
def write (number : Nat) (a : Address) (p : Payload) (nonce : Nat) (price : Price) : Bytes :=
  a.toBytes ++ Bytes.ofNat 8 nonce ++ Bytes.ofNat 8 number ++ p.recipient.toBytes
    ++ p.value.toBytes ++ p.gasLimit.toBytes ++ priceBytes price ++ p.data

/-- Answers a request. -/
def sign (s : Scribe) (a : Address) (p : Payload) (nonce : Nat) (price : Price) :
    Scribe × Except Failure Bytes :=
  match s.refusal, s.fixed with
  | some detail, _ => (s, .error (.signing a detail))
  | none, some raw => (s, .ok raw)
  | none, none =>
    ({ s with written := s.written + 1 }, .ok (write s.written a p nonce price))

end Scribe

/-- Who signs. -/
inductive Signer
  | wallet (w : Wallet)
  | scribe (s : Scribe)

namespace Signer

instance : Inhabited Signer := ⟨.scribe {}⟩

/-- The accounts that the signer holds. -/
def accounts : Signer → List Address
  | wallet w => w.accounts
  | scribe s => s.accounts

/-- The answer to a request for a signature. -/
def reply : Ending Bytes → Reply
  | .returned (.ok raw) => .signed raw
  | .returned (.error e) => .failed e
  | .crashed c => .crashed c

/-- The answer to a question for the signer. Only a scribe can be held up. -/
def ask (s : Signer) : Query → Option (Signer × Reply × Option Gate)
  | .signature a p nonce price => match s with
    | wallet w => some (s, reply (w.sign a p nonce price), none)
    | scribe t =>
      let (t, result) := t.sign a p nonce price
      some (scribe t, reply (.returned result), some .sign)
  | _ => none

/-- Tells a scribe what to do instead of writing. -/
def instruct (refusal : Option String) (fixed : Option Bytes) : Signer → Signer
  | scribe s => scribe { s with refusal := refusal, fixed := fixed }
  | wallet w => wallet w

end Signer

end TxGateway.Rehearsal
