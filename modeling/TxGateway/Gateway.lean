import TxGateway.Ending
import TxGateway.GasPolicy
import TxGateway.Ledger
import TxGateway.Metrics
import TxGateway.Watchlist

/-!
# The state of a gateway

The ledgers of all accounts, the watchlist and the metrics, and the operations on them that happen
at one moment. Everything that waits for an answer from outside is a call, see `TxGateway.Call`.
-/

namespace TxGateway

/-- How a gateway behaves. -/
structure Policy where
  /-- The name under which the gateway reports. -/
  instanceId : String := "gateway-0"
  /-- A ledger older than this is brought up to date before a submission. -/
  staleAfter : Duration := .ofSeconds 30
  /-- How long a poll waits for each answer of the chain. -/
  pollTimeout : Duration := .ofMillis 10000
  /-- How long a submission waits for the outcome of its broadcast. -/
  broadcastTimeout : Duration := .ofMillis 30000
  /-- The time between two sweeps of the monitor. -/
  refreshInterval : Duration := .ofMillis 5000
  /-- A transaction that the node does not know is given up after this time. -/
  dropAfter : Duration := .ofSeconds 600
  /-- Final records are kept for this time. -/
  retention : Duration := .ofSeconds 86400
  /-- The gas rules. -/
  gas : GasPolicy := {}
  deriving Repr

/-- Everything that a gateway remembers. -/
structure Gateway where
  /-- The ledger of each account that has one. -/
  ledgers : Table Address Ledger := ∅
  /-- The transactions that have been sent. -/
  watchlist : Watchlist := {}
  /-- What has been counted and measured. -/
  metrics : Registry := .empty
  /-- How many submissions have got a serial number. -/
  issued : Nat := 0
  /-- Whether the monitor has been asked to end. -/
  closing : Bool := false
  /-- When the gateway came up. -/
  startedAt : Timestamp := ⟨0⟩

namespace Gateway

instance : Inhabited Gateway := ⟨{}⟩

/-- The ledger of an account, or an empty one. -/
def ledger (g : Gateway) (a : Address) : Ledger := (g.ledgers.get? a).getD {}

/-- Stores the ledger of an account. -/
def setLedger (g : Gateway) (a : Address) (l : Ledger) : Gateway :=
  { g with ledgers := g.ledgers.set a l }

/-- Gives an account an empty ledger unless it has one. -/
def ensureLedger (g : Gateway) (a : Address) : Gateway :=
  if g.ledgers.contains a then g else g.setLedger a {}

/-- Notes what has happened in the metrics. -/
def measure (g : Gateway) (f : Registry → Registry) : Gateway :=
  { g with metrics := f g.metrics }

/-- The accounts with a ledger. -/
def knownAccounts (g : Gateway) : List Address := g.ledgers.keys

/-- The pending nonces of an account. -/
def pendingNonces (g : Gateway) (a : Address) : List Nat := (g.ledger a).pending

/-- The report on the ledger of an account. -/
def snapshot? (g : Gateway) (now : Timestamp) (a : Address) : Option Ledger.Snapshot :=
  (g.ledgers.get? a).map (·.snapshot now)

/-- Whether an account has no ledger or an old one. -/
def needsReconcile (g : Gateway) (now : Timestamp) (a : Address) (maxAge : Duration) : Bool :=
  match g.ledgers.get? a with
  | none => true
  | some l => l.isStale now maxAge

/-- Takes a confirmed count into the ledger of an account; gives the next nonce. -/
def reconcile (g : Gateway) (now : Timestamp) (a : Address) (count : Nat) : Gateway × Nat :=
  let l := (g.ledger a).confirm now count
  ((g.setLedger a l).measure (·.nonceReconciled a l.pending.length), l.next)

/-- Hands out a nonce of an account. None while its ledger has never been brought up to date. -/
def obtain (g : Gateway) (a : Address) (choice : NonceChoice) :
    Gateway × Option (Except Failure Nat) :=
  let l := g.ledger a
  if !l.seeded then (g, none)
  else match choice with
    | .next =>
      let (n, l) := l.handOut
      ((g.setLedger a l).measure (·.nonceAllocated a l.pending.length), some (.ok n))
    | .named n => match l.claim n with
      | .error refusal =>
        (g.measure (·.nonceCollision), some (.error (.nonceTaken a n refusal.message)))
      | .ok l => ((g.setLedger a l).measure (·.nonceAllocated a l.pending.length), some (.ok n))

/-- Gives a nonce of an account back. A nonce that is not pending is left alone. -/
def giveBack (g : Gateway) (a : Address) (n : Nat) : Gateway × Except Failure Unit :=
  match g.ledgers.get? a with
  | none => (g, .error (.unknownAccount a))
  | some l => match l.giveBack? n with
    | none => (g, .ok ())
    | some l => ((g.setLedger a l).measure (·.nonceReleased a l.pending.length), .ok ())

/-- Makes the ledger of an account stale. -/
def expire (g : Gateway) (a : Address) : Gateway :=
  match g.ledgers.get? a with
  | none => g
  | some l => g.setLedger a l.expire

/-- Begins to watch a transaction. A conflict is a broken promise and changes nothing else. -/
def watch (g : Gateway) (r : Record) : Gateway × Except Failure Unit :=
  match g.watchlist.enter r with
  | .ok w => ({ g with watchlist := w }, .ok ())
  | .error conflict => (g.measure (·.violationFound), .error (.violation conflict.message))

/-- Takes in a stored record. -/
def restore (g : Gateway) (r : Record) : Gateway :=
  { g with watchlist := g.watchlist.restore r }

/-- Forgets final records that were last touched longer ago than a length of time. Nothing is
forgotten if that length is beyond every date. -/
def evict (g : Gateway) (now : Timestamp) (olderThan : Duration) : Except Crash (Gateway × Nat) :=
  match now.goBack olderThan.nanos with
  | .tooLong => .ok (g, 0)
  | .outsideCalendar => .error .outsideCalendar
  | .at cutoff =>
    .ok ({ g with watchlist := g.watchlist.purge cutoff }, g.watchlist.expiring cutoff)

/-- A new serial number for a submission. -/
def issueId (g : Gateway) : Gateway × SubmissionId :=
  ({ g with issued := g.issued + 1 }, ⟨g.issued⟩)

end Gateway

end TxGateway
