import TxGateway.Call.Reconcile

/-!
# Getting a nonce

An account that has never been seen gets a ledger, which is brought up to date before it hands
anything out. Asking for the current nonce promises nothing and creates no ledger.
-/

namespace TxGateway

/-- Where getting a nonce stands. -/
inductive Obtain
  /-- Waiting for a turn at the ledger. -/
  | turn
  /-- The ledger is new and is brought up to date first. -/
  | seeding (r : Reconcile)
  deriving DecidableEq, Repr

namespace Obtain

/-- Begins to get a nonce of an account. -/
def start (a : Address) (g : Gateway) : Gateway × Obtain := (g.ensureLedger a, .turn)

/-- What is waited for. -/
def query (a : Address) : Obtain → Query
  | turn => .turn a
  | seeding r => r.query a

/-- Goes on with an answer; the result is the nonce. -/
def resume (a : Address) (choice : NonceChoice) (now : Timestamp) (g : Gateway) :
    Obtain → Reply → Gateway × Progress Obtain (Except Failure Nat)
  | turn, .done => match g.obtain a choice with
    | (g, some result) => (g, .ended result)
    | (g, none) => (g, .waiting (.seeding .asking))
  | turn, _ => (g, .waiting .turn)
  | seeding r, reply => match r.resume a now g reply with
    | (g, .waiting r) => (g, .waiting (.seeding r))
    | (g, .ended (.ok _)) => (g, .waiting .turn)
    | (g, .ended (.error e)) => (g, .ended (.error e))

end Obtain

/-- Where asking for the current nonce stands. -/
inductive CurrentNonce
  /-- Waiting for a turn at the ledger. -/
  | turn
  /-- There is no usable ledger, so the chain is asked. -/
  | asking
  deriving DecidableEq, Repr

namespace CurrentNonce

/-- Begins to ask for the current nonce of an account. -/
def start (a : Address) (g : Gateway) : CurrentNonce :=
  if g.ledgers.contains a then .turn else .asking

/-- What is waited for. -/
def query (a : Address) : CurrentNonce → Query
  | turn => .turn a
  | asking => .count a

/-- Goes on with an answer. The state of the gateway is only read. -/
def resume (a : Address) (g : Gateway) :
    CurrentNonce → Reply → Progress CurrentNonce (Except Failure Nat)
  | turn, .done =>
    if (g.ledger a).seeded then .ended (.ok (g.ledger a).upcoming) else .waiting .asking
  | asking, .count n => .ended (.ok n)
  | asking, .failed e => .ended (.error e)
  | call, _ => .waiting call

end CurrentNonce

end TxGateway
