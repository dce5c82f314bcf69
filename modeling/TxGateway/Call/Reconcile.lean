import TxGateway.Query

/-!
# Bringing a ledger up to date

The chain is asked with no turn at the ledger held, so other calls may change the ledger before the
answer is taken in; an old answer does no harm, because a confirmed count never falls.
-/

namespace TxGateway

/-- Where bringing the ledger of an account up to date stands. -/
inductive Reconcile
  /-- The chain has been asked for the confirmed count. -/
  | asking
  /-- The count is known and waits for a turn at the ledger. -/
  | applying (count : Nat)
  deriving DecidableEq, Repr

namespace Reconcile

/-- What is waited for. -/
def query (a : Address) : Reconcile → Query
  | asking => .count a
  | applying _ => .turn a

/-- Goes on with an answer; the result is the next nonce of the account. -/
def resume (a : Address) (now : Timestamp) (g : Gateway) :
    Reconcile → Reply → Gateway × Progress Reconcile (Except Failure Nat)
  | asking, .count n => (g, .waiting (.applying n))
  | asking, .failed e => (g, .ended (.error e))
  | applying n, .done =>
    let (g, next) := g.reconcile now a n
    (g, .ended (.ok next))
  | call, _ => (g, .waiting call)

end Reconcile

/-- Bringing several ledgers up to date, one after another. A failure is passed over. -/
structure ReconcileAll where
  /-- The account at hand. -/
  account : Address
  /-- Where it stands. -/
  stage : Reconcile
  /-- The accounts that follow. -/
  rest : List Address
  deriving DecidableEq, Repr

namespace ReconcileAll

/-- Begins with the first account of a list. -/
def start : List Address → Progress ReconcileAll Unit
  | [] => .ended ()
  | a :: rest => .waiting ⟨a, .asking, rest⟩

/-- What is waited for. -/
def query (c : ReconcileAll) : Query := c.stage.query c.account

/-- Goes on with an answer. -/
def resume (now : Timestamp) (g : Gateway) (c : ReconcileAll) (reply : Reply) :
    Gateway × Progress ReconcileAll Unit :=
  match c.stage.resume c.account now g reply with
  | (g, .waiting stage) => (g, .waiting { c with stage := stage })
  | (g, .ended _) => (g, start c.rest)

end ReconcileAll

end TxGateway
