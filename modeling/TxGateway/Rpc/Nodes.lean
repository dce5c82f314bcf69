import TxGateway.Query

/-!
# The nodes of a chain

A gateway may know several nodes. All requests go to the active one; whoever finds that it does not
answer makes the next one active, for all. A reading request is made again until every node might
have had its turn, a sending one is made once: a second node might take what the first has already
passed on.
-/

namespace TxGateway.Rpc

/-- The nodes of a chain. -/
structure Nodes where
  /-- How many there are. -/
  size : Nat
  /-- The active one, counted around. -/
  active : Nat := 0
  /-- There is at least one. -/
  pos : 0 < size
  deriving Repr

namespace Nodes

/-- The node that the next request goes to. -/
def current (ns : Nodes) : Nat := ns.active % ns.size

/-- Makes the next node active. -/
def failover (ns : Nodes) : Nodes := { ns with active := (ns.active + 1) % ns.size }

end Nodes

/-- What is asked of a node. -/
inductive Question
  /-- The number of the newest block. -/
  | blockNumber
  /-- How many transactions of an account are confirmed. -/
  | count (account : Address)
  /-- The receipt of a transaction. -/
  | receipt (hash : TxHash)
  /-- The body of a transaction. -/
  | transaction (hash : TxHash)
  /-- The base fee of the newest block. -/
  | baseFee
  /-- The price of gas. -/
  | gasPrice
  /-- That signed bytes be taken. -/
  | send (raw : Bytes)
  deriving DecidableEq, Repr

namespace Question

/-- How a question is called in the wording of its failures. -/
def operation : Question → String
  | blockNumber => "get block number"
  | count _ => "get transaction count"
  | receipt _ => "get transaction receipt"
  | transaction _ => "get transaction"
  | baseFee => "get latest block"
  | gasPrice => "get gas price"
  | send _ => "broadcast"

end Question

/-- What a node answers. -/
inductive NodeReply
  /-- A number. -/
  | number (n : Word)
  /-- A receipt, if the transaction is mined. -/
  | receipt (receipt : Option Receipt)
  /-- A body, if the node knows the transaction. -/
  | transaction (body : Option TransactionBody)
  /-- The newest block, if there is one, and its base fee, if it has one. -/
  | block (baseFee : Option (Option Word))
  /-- The hash of the bytes that were taken. -/
  | hash (hash : TxHash)
  /-- The node refuses to answer. -/
  | refused (code : Int) (reason : String)
  /-- There is no answer. -/
  | lost (detail : String)
  deriving DecidableEq, Repr

namespace NodeReply

/-- Why an answer is none. -/
def trouble? : NodeReply → Option String
  | refused code reason =>
    some ("(code: " ++ toString code ++ ", message: " ++ reason ++ ", data: None)")
  | lost detail => some detail
  | _ => none

end NodeReply

end TxGateway.Rpc
