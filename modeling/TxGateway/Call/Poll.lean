import TxGateway.Query

/-!
# Asking for the outcome of a transaction

A poll asks the chain once. It changes the status of a transaction only on an answer that settles
it: a receipt, or the absence of both receipt and transaction after the time for giving up. A
failure or silence changes nothing.
-/

namespace TxGateway

/-- What a poll still has to learn. -/
inductive Poll.Stage
  /-- Whether there is a receipt. -/
  | receipt
  /-- Whether the node knows the transaction; a receipt without success may have come. -/
  | transaction (receipt : Option Receipt)
  deriving DecidableEq, Repr

/-- A poll in progress. -/
structure Poll where
  /-- The transaction that is asked for. -/
  hash : TxHash
  /-- When it was sent. -/
  submittedAt : Timestamp
  /-- What is still to be learnt. -/
  stage : Poll.Stage
  deriving DecidableEq, Repr

namespace Poll

/-- Begins a poll. A final record is the answer already. -/
def start (h : TxHash) (g : Gateway) : Progress Poll (Except Failure Watchlist.Observation) :=
  match g.watchlist.lookup? h with
  | none => .ended (.error (.unknownTransaction h))
  | some r =>
    if r.isLive then .waiting ⟨h, r.submittedAt, .receipt⟩
    else .ended (.ok { record := r, changed := false })

/-- What is waited for. -/
def query (c : Poll) : Query :=
  match c.stage with
  | .receipt => .receipt c.hash
  | .transaction _ => .transaction c.hash

/-- What an answer means for a poll. -/
inductive Verdict
  /-- The transaction itself has to be asked for. -/
  | undecided (receipt : Option Receipt)
  /-- The transaction has this status. -/
  | decided (status : Status)
  /-- The poll fails. -/
  | failed (failure : Failure)
  deriving DecidableEq, Repr

/-- The name of what is waited for, in the wording of a timeout. -/
def operation (c : Poll) : String :=
  match c.stage with
  | .receipt => "get transaction receipt"
  | .transaction _ => "get transaction"

/-- Reads an answer; none if it answers another question. -/
def verdict? (p : Policy) (now : Timestamp) (c : Poll) : Reply → Option Verdict
  | .failed e => some (.failed e)
  | .silence => some (.failed (.timeout c.operation))
  | .receipt (some r) => match c.stage with
    | .receipt => some (if r.success then .decided (.confirmed r) else .undecided (some r))
    | .transaction _ => none
  | .receipt none => match c.stage with
    | .receipt =>
      let age := now.since c.submittedAt
      some (if age.nanos ≤ p.dropAfter.nanos then .decided .pending else .undecided none)
    | .transaction _ => none
  | .transaction body => match c.stage, body with
    | .receipt, _ => none
    | .transaction (some r), some body => some (.decided (p.gas.classify r body.gasLimit))
    | .transaction (some r), none => some (.decided (.failed r))
    | .transaction none, some _ => some (.decided .pending)
    | .transaction none, none => some (.decided .dropped)
  | _ => none

/-- Takes a status into the watchlist. -/
def apply (now : Timestamp) (g : Gateway) (h : TxHash) (status : Status) :
    Gateway × Except Failure Watchlist.Observation :=
  match g.watchlist.polled? h now status with
  | none => (g, .error (.unknownTransaction h))
  | some (w, o) =>
    let g := { g with watchlist := w }
    (if o.changed then g.measure (·.transactionOutcome o.record.status.label) else g, .ok o)

/-- Goes on with an answer. -/
def resume (p : Policy) (now : Timestamp) (g : Gateway) (c : Poll) (reply : Reply) :
    Gateway × Progress Poll (Except Failure Watchlist.Observation) :=
  match c.verdict? p now reply with
  | none => (g, .waiting c)
  | some (.undecided r) => (g, .waiting { c with stage := .transaction r })
  | some (.failed e) => (g.measure (·.pollError), .ended (.error e))
  | some (.decided status) =>
    let (g, result) := apply now g c.hash status
    (g, .ended result)

end Poll

/-- A poll on behalf of a client: a dropped transaction gives its nonce back, and a change is
stored. -/
inductive Settle
  /-- The chain is being asked. -/
  | polling (poll : Poll)
  /-- The transaction was dropped; its nonce waits to be given back. -/
  | releasing (o : Watchlist.Observation)
  /-- The nonce has been given back; the ledger waits to be made stale. -/
  | expiring (o : Watchlist.Observation)
  /-- The change is being stored. -/
  | saving (o : Watchlist.Observation)
  deriving DecidableEq, Repr

namespace Settle

/-- What follows a poll. -/
def afterPoll : Progress Poll (Except Failure Watchlist.Observation) →
    Progress Settle (Except Failure Watchlist.Observation)
  | .waiting poll => .waiting (.polling poll)
  | .ended (.error e) => .ended (.error e)
  | .ended (.ok o) =>
    if !o.changed then .ended (.ok o)
    else if o.record.status = .dropped then .waiting (.releasing o)
    else .waiting (.saving o)

/-- Begins a poll. -/
def start (h : TxHash) (g : Gateway) : Progress Settle (Except Failure Watchlist.Observation) :=
  afterPoll (Poll.start h g)

/-- What is waited for. -/
def query : Settle → Query
  | polling poll => poll.query
  | releasing o | expiring o => .turn o.record.account
  | saving o => .saveRecord o.record

/-- Goes on with an answer. Whether the change could be stored makes no difference. -/
def resume (p : Policy) (now : Timestamp) (g : Gateway) :
    Settle → Reply → Gateway × Progress Settle (Except Failure Watchlist.Observation)
  | polling poll, reply =>
    let (g, progress) := poll.resume p now g reply
    (g, afterPoll progress)
  | releasing o, .done =>
    ((g.giveBack o.record.account o.record.nonce).1, .waiting (.expiring o))
  | expiring o, .done => (g.expire o.record.account, .waiting (.saving o))
  | saving o, .done | saving o, .failed _ => (g, .ended (.ok o))
  | call, _ => (g, .waiting call)

end Settle

end TxGateway
