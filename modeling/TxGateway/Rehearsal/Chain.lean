import TxGateway.Crypto.Keccak
import TxGateway.Query

/-!
# A chain for rehearsals

A chain that answers as it has been told to, counts what it has been asked and keeps what it has
been sent.
-/

namespace TxGateway.Rehearsal

/-- What can be asked of a chain and of a signer, and can be held up. -/
inductive Gate
  | count
  | receipt
  | transaction
  | broadcast
  | gasPrice
  | sign
  /-- A gate that nothing passes. -/
  | idle (name : String)
  deriving DecidableEq, Repr

namespace Gate

/-- The name of a gate. -/
def name : Gate → String
  | count => "count"
  | receipt => "receipt"
  | transaction => "transaction"
  | broadcast => "broadcast"
  | gasPrice => "gas_price"
  | sign => "sign"
  | idle name => name

/-- Every gate that something passes. -/
def all : List Gate := [count, receipt, transaction, broadcast, gasPrice, sign]

/-- The gate with a name. -/
def ofName (s : String) : Gate := (all.find? fun g => g.name = s).getD (idle s)

/-- How a request to the chain is called in the wording of its failures. -/
def operation : Gate → String
  | count => "get transaction count"
  | receipt => "get transaction receipt"
  | transaction => "get transaction"
  | gasPrice => "get gas price"
  | broadcast => "broadcast"
  | sign => "sign"
  | idle name => name

end Gate

/-- Why a request to the chain fails. -/
inductive Trouble
  /-- The network is to blame. -/
  | network (detail : String)
  /-- The answer is to blame. -/
  | internal (detail : String)
  deriving DecidableEq, Repr

namespace Trouble

/-- The failure of a request. -/
def failure (g : Gate) : Trouble → Failure
  | network detail => .network g.operation detail
  | internal detail => .internal detail

end Trouble

/-- What the chain does with signed bytes. -/
inductive Reception
  /-- It takes them and tells their hash. -/
  | honest
  /-- It refuses them. -/
  | refusing (reason : String)
  /-- It takes them, but its answer is lost. -/
  | silent (detail : String)
  /-- It takes them and tells another hash. -/
  | renaming (hash : TxHash)
  deriving DecidableEq, Repr

/-- A chain that answers as it has been told to. -/
structure Chain where
  /-- Confirmed counts; zero for other accounts. -/
  counts : Table Address Nat := ∅
  /-- Receipts of mined transactions. -/
  receipts : Table TxHash Receipt := ∅
  /-- The gas limits of the transactions that the chain knows. -/
  transactions : Table TxHash Word := ∅
  /-- The price of gas. -/
  price : Price := .legacy (BitVec.ofNat 256 1000000000)
  /-- What happens to signed bytes. -/
  reception : Reception := .honest
  /-- Whether the chain says that it works. -/
  healthy : Bool := true
  /-- The requests that fail. -/
  troubles : Table Gate Trouble := ∅
  /-- How often each request has been made. -/
  asked : Table Gate Nat := ∅
  /-- The bytes that have been sent, in order. -/
  sent : List Bytes := []

namespace Chain

instance : Inhabited Chain := ⟨{}⟩

/-- Counts a request. -/
def note (c : Chain) (g : Gate) : Chain :=
  { c with asked := c.asked.set g ((c.asked.get? g).getD 0 + 1) }

/-- The answer to a request that may have been told to fail. -/
def answer (c : Chain) (g : Gate) (reply : Reply) : Chain × Reply × Option Gate :=
  let reply := match c.troubles.get? g with
    | some t => .failed (t.failure g)
    | none => reply
  (c.note g, reply, some g)

/-- A transaction of which only the gas limit matters. -/
def body (gasLimit : Word) : TransactionBody := ⟨⟨0⟩, 0, gasLimit, none⟩

/-- The answer to a question about the chain, and the gate that it passes. -/
def ask (c : Chain) : Query → Option (Chain × Reply × Option Gate)
  | .count a => some (c.answer .count (.count ((c.counts.get? a).getD 0)))
  | .receipt h => some (c.answer .receipt (.receipt (c.receipts.get? h)))
  | .transaction h =>
    some (c.answer .transaction (.transaction ((c.transactions.get? h).map body)))
  | .gasPrice => some (c.answer .gasPrice (.price c.price))
  | .broadcast raw =>
    let reply := match c.reception with
      | .honest => .accepted (.ofBytes (Keccak.hash raw))
      | .refusing reason => .rejected reason
      | .silent detail => .unreachable detail
      | .renaming hash => .accepted hash
    some ({ c.note .broadcast with sent := c.sent ++ [raw] }, reply, some .broadcast)
  | .chainHealth => some (c, .health c.healthy, none)
  | _ => none

end Chain

end TxGateway.Rehearsal
