import TxGateway.Gateway

/-!
# Questions and answers

A call in progress waits for the answer to one question at a time (a sweep to several). The
questions go to the chain, to the signer, to the store, or to the ledger of an account, which
serves one call after another.
-/

namespace TxGateway

/-- What a call waits for. -/
inductive Query
  /-- How many transactions of an account the chain has confirmed. -/
  | count (account : Address)
  /-- The receipt of a transaction. -/
  | receipt (hash : TxHash)
  /-- The body of a transaction. -/
  | transaction (hash : TxHash)
  /-- The current price of gas. -/
  | gasPrice
  /-- The signed bytes of a transaction. -/
  | signature (account : Address) (payload : Payload) (nonce : Nat) (price : Price)
  /-- The outcome of handing signed bytes to the node. -/
  | broadcast (raw : Bytes)
  /-- Whether the chain can be reached. -/
  | chainHealth
  /-- A turn at the ledger of an account. -/
  | turn (account : Address)
  /-- That an account be remembered. -/
  | noteAccount (account : Address)
  /-- That a record be stored. -/
  | saveRecord (record : Record)
  /-- The remembered accounts. -/
  | storedAccounts
  /-- The stored records. -/
  | storedRecords
  /-- Whether the store can be reached. -/
  | storeHealth
  /-- That a point in time has come. -/
  | moment (t : Timestamp)
  deriving DecidableEq, Repr

/-- Whether a question goes to the chain or to the signer. -/
def Query.isOutward : Query → Bool
  | .count _ | .receipt _ | .transaction _ | .gasPrice | .signature .. | .broadcast _
  | .chainHealth => true
  | _ => false

/-- What a call can get for an answer. -/
inductive Reply
  /-- A confirmed count. -/
  | count (n : Nat)
  /-- A receipt, if the transaction is mined. -/
  | receipt (receipt : Option Receipt)
  /-- The body of a transaction, if the node knows it. -/
  | transaction (body : Option TransactionBody)
  /-- A price. -/
  | price (price : Price)
  /-- Signed bytes. -/
  | signed (raw : Bytes)
  /-- The node took the bytes and knows the transaction by a hash. -/
  | accepted (hash : TxHash)
  /-- The node refused the bytes. -/
  | rejected (reason : String)
  /-- The node could not be reached; whether it has the bytes is unknown. -/
  | unreachable (detail : String)
  /-- Remembered accounts. -/
  | accounts (accounts : List Address)
  /-- Stored records. -/
  | records (records : List Record)
  /-- Whether something works. -/
  | health (ok : Bool)
  /-- It is done, or its turn or time has come. -/
  | done
  /-- The question failed. -/
  | failed (failure : Failure)
  /-- Whoever was asked broke off. -/
  | crashed (crash : Crash)
  /-- No answer came within the time that the call was ready to wait. -/
  | silence
  deriving DecidableEq, Repr

/-- The wording of an answer by which a broadcast goes wrong. -/
def Reply.broadcastFault? : Reply → Option String
  | .rejected reason => some ("rejected by node: " ++ reason)
  | .unreachable detail => some ("node unreachable: " ++ detail)
  | _ => none

/-- How long a call is ready to wait for an answer; without a bound, for ever. -/
def Policy.patience? (p : Policy) : Query → Option Duration
  | .receipt _ | .transaction _ => some p.pollTimeout
  | .broadcast _ => some p.broadcastTimeout
  | _ => none

/-- A call after an answer: it waits again, or it has come to its end. -/
inductive Progress (σ α : Type)
  /-- The call waits. -/
  | waiting (call : σ)
  /-- The call has ended. -/
  | ended (result : α)

end TxGateway
