import TxGateway.Table
import TxGateway.Address

/-!
# Metrics

Counters and gauges of a gateway and the text in which they are exposed. A family is written only
once it has a value; families stand in the order of their names, series in the order of their label
values. Values are binary floating-point numbers of double precision, written in their shortest
decimal digits.
-/

namespace TxGateway

namespace Metrics

/-- What is counted or measured. -/
inductive Family
  | noncesAllocated
  | noncesReleased
  | nonceReconciliations
  | nonceCollisions
  | pendingNonces
  | submitted
  | refused
  | outcomes
  | pendingTransactions
  | pollErrors
  | violations
  | healthy
  | unhealthy
  deriving DecidableEq, Repr

namespace Family

/-- Every family, in the order of the names. -/
def all : List Family :=
  [unhealthy, healthy, violations, nonceCollisions, nonceReconciliations, noncesAllocated,
    noncesReleased, pendingNonces, pendingTransactions, pollErrors, outcomes, refused, submitted]

/-- The exposed name. -/
def name : Family → String
  | noncesAllocated => "gateway_nonces_allocated_total"
  | noncesReleased => "gateway_nonces_released_total"
  | nonceReconciliations => "gateway_nonce_reconciliations_total"
  | nonceCollisions => "gateway_nonce_collisions_total"
  | pendingNonces => "gateway_pending_nonces"
  | submitted => "gateway_transactions_submitted_total"
  | refused => "gateway_transactions_rejected_total"
  | outcomes => "gateway_transaction_outcomes_total"
  | pendingTransactions => "gateway_pending_transactions"
  | pollErrors => "gateway_poll_errors_total"
  | violations => "gateway_invariant_violations_total"
  | healthy => "gateway_health_check_success_total"
  | unhealthy => "gateway_health_check_failure_total"

/-- The exposed explanation. -/
def help : Family → String
  | noncesAllocated => "Total nonces handed out"
  | noncesReleased => "Total nonces returned unused"
  | nonceReconciliations => "Total ledger reconciliations against the chain"
  | nonceCollisions => "Total caller-supplied nonces refused"
  | pendingNonces => "Nonces handed out and not yet confirmed"
  | submitted => "Total transactions accepted by the node"
  | refused => "Total transactions refused by the node"
  | outcomes => "Terminal transaction statuses observed"
  | pendingTransactions => "Tracked transactions awaiting an outcome"
  | pollErrors => "Total status polls that failed or timed out"
  | violations => "Total detected internal invariant violations"
  | healthy => "Total successful health checks"
  | unhealthy => "Total failed health checks"

/-- Whether the values of a family may fall. -/
def isGauge : Family → Bool
  | pendingNonces | pendingTransactions => true
  | _ => false

end Family

/-- What tells the series of a family apart. -/
inductive Label
  /-- The only series of its family. -/
  | whole
  /-- The series of an account. -/
  | account (a : Address)
  /-- The series of an outcome. -/
  | status (name : String)
  deriving DecidableEq, Repr

namespace Label

/-- The text of a label value. -/
def value : Label → String
  | whole => ""
  | account a => a.text
  | status name => name

/-- Escapes what would end a quoted value. -/
def escape (s : String) : String :=
  String.ofList <| s.toList.flatMap fun
    | '\\' => ['\\', '\\']
    | '"' => ['\\', '"']
    | '\n' => ['\\', 'n']
    | c => [c]

/-- The label as it stands behind the name of a series. -/
def text : Label → String
  | whole => ""
  | l@(account _) => "\x7baccount=\"" ++ escape l.value ++ "\"\x7d"
  | l@(status _) => "\x7bstatus=\"" ++ escape l.value ++ "\"\x7d"

end Label

end Metrics

/-- The values of all series. -/
structure Registry where
  /-- Value by family and label. -/
  series : Table (Metrics.Family × Metrics.Label) Nat := ∅

namespace Registry

open Metrics

instance : Inhabited Registry := ⟨{ series := ∅ }⟩

/-- The registry before the first event. -/
def empty : Registry := { series := ∅ }

/-- The value of a series that has one. -/
def value? (r : Registry) (f : Family) (l : Label) : Option Nat := r.series.get? (f, l)

/-- The value of a series, zero before the first event. -/
def value (r : Registry) (f : Family) (l : Label) : Nat := (r.value? f l).getD 0

/-- Sets a gauge. -/
def gauge (r : Registry) (f : Family) (l : Label) (n : Nat) : Registry :=
  ⟨r.series.set (f, l) n⟩

/-- Counts an event. -/
def count (r : Registry) (f : Family) (l : Label) : Registry :=
  r.gauge f l (r.value f l + 1)

/-- A nonce was handed out, and so many are pending now. -/
def nonceAllocated (r : Registry) (a : Address) (pending : Nat) : Registry :=
  (r.count .noncesAllocated (.account a)).gauge .pendingNonces (.account a) pending

/-- A nonce was given back, and so many are pending now. -/
def nonceReleased (r : Registry) (a : Address) (pending : Nat) : Registry :=
  (r.count .noncesReleased (.account a)).gauge .pendingNonces (.account a) pending

/-- A ledger took in a confirmed count, and so many nonces are pending now. -/
def nonceReconciled (r : Registry) (a : Address) (pending : Nat) : Registry :=
  (r.count .nonceReconciliations (.account a)).gauge .pendingNonces (.account a) pending

/-- A nonce chosen by a caller was refused. -/
def nonceCollision (r : Registry) : Registry := r.count .nonceCollisions .whole

/-- The node accepted a transaction. -/
def transactionSubmitted (r : Registry) : Registry := r.count .submitted .whole

/-- The node refused a transaction. -/
def submissionRejected (r : Registry) : Registry := r.count .refused .whole

/-- A watched transaction came to an outcome. -/
def transactionOutcome (r : Registry) (label : String) : Registry :=
  r.count .outcomes (.status label)

/-- So many watched transactions are still open. -/
def openTransactions (r : Registry) (n : Nat) : Registry := r.gauge .pendingTransactions .whole n

/-- A poll failed. -/
def pollError (r : Registry) : Registry := r.count .pollErrors .whole

/-- A promise was found broken. -/
def violationFound (r : Registry) : Registry := r.count .violations .whole

/-- A check of the whole gateway went well or badly. -/
def healthChecked (r : Registry) (ok : Bool) : Registry :=
  r.count (if ok then .healthy else .unhealthy) .whole

end Registry

end TxGateway
