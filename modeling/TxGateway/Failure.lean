import TxGateway.Address

/-!
# Failures

Every way in which a call of the gateway can fail, its wording, and what a caller or an operator
should make of it. Only failures of the network are worth another try; only broken promises and
the database ask for an alarm.
-/

namespace TxGateway

/-- What goes wrong between the gateway and its database. -/
inductive DatabaseFault
  /-- A query found no row where it had to find one. -/
  | noRow
  /-- The connections have been closed. -/
  | closed
  /-- No connection became free in time. -/
  | exhausted
  /-- The database cannot be talked to. -/
  | unreachable (cause : String)
  /-- The database answered with an error. -/
  | refused (reason : String)
  deriving DecidableEq, Repr

namespace DatabaseFault

/-- The wording of a database fault. -/
def message : DatabaseFault → String
  | noRow => "no rows returned by a query that expected to return at least one row"
  | closed => "attempted to acquire a connection on a closed pool"
  | exhausted => "pool timed out while waiting for an open connection"
  | unreachable cause => "error communicating with database: " ++ cause
  | refused reason => "error returned from database: " ++ reason

end DatabaseFault

/-- Why a call fails. -/
inductive Failure
  /-- The settings do not allow the gateway to work. -/
  | configuration (problem : String)
  /-- The database cannot serve. -/
  | database (fault : DatabaseFault)
  /-- A request to the chain got no usable answer. -/
  | network (operation detail : String)
  /-- A request to the chain got no answer in time. -/
  | timeout (operation : String)
  /-- A nonce chosen by the caller is taken. -/
  | nonceTaken (account : Address) (nonce : Nat) (reason : String)
  /-- The node refused a transaction. -/
  | rejected (account : Address) (nonce : Nat) (reason : String)
  /-- No signature could be made. -/
  | signing (account : Address) (detail : String)
  /-- No such transaction is watched. -/
  | unknownTransaction (hash : TxHash)
  /-- The account has no ledger. -/
  | unknownAccount (account : Address)
  /-- A promise between the parts of the gateway is broken. -/
  | violation (detail : String)
  /-- Anything else. -/
  | internal (detail : String)
  deriving DecidableEq, Repr

namespace Failure

/-- A listener cannot have its address. -/
def addressTaken (address : String) : Failure := internal ("Failed to bind " ++ address)

/-- The wording of a failure. -/
def message : Failure → String
  | configuration problem => "Configuration error: " ++ problem
  | database fault => "Database error: " ++ fault.message
  | network operation detail => "Network error during " ++ operation ++ ": " ++ detail
  | timeout operation => "Timeout waiting for " ++ operation
  | nonceTaken account nonce reason =>
    "Nonce " ++ toString nonce ++ " for account " ++ account.text ++ " collides: " ++ reason
  | rejected account nonce reason =>
    "Submission rejected for account " ++ account.text ++ " (nonce " ++ toString nonce ++ "): "
      ++ reason
  | signing account detail => "Signing failed for account " ++ account.text ++ ": " ++ detail
  | unknownTransaction hash => "Transaction " ++ hash.text ++ " not found"
  | unknownAccount account => "Account " ++ account.text ++ " has no nonce ledger"
  | violation detail => "Invariant violation: " ++ detail
  | internal detail => "Internal error: " ++ detail

/-- Whether the same call may succeed when it is made again. -/
def retryable : Failure → Bool
  | network .. | timeout .. => true
  | _ => false

/-- Whether an operator should be told. -/
def alarming : Failure → Bool
  | violation .. | database .. => true
  | _ => false

end Failure

end TxGateway
