import TxGateway.Call.Reconcile
import TxGateway.Call.Sweep

/-!
# The monitor

The monitor sweeps the watchlist, brings all ledgers up to date and forgets old records, each at
its own pace. It does one thing at a time and looks between two of them whether it has been asked to
end; while it waits for the next moment it does not look. It waits for the moments of all three at
once: when several have come, whichever of them answers is taken, and the others are waited for
anew.
-/

namespace TxGateway

/-- A recurring moment. -/
structure Timer where
  /-- When it comes next. -/
  due : Timestamp
  /-- The time between two of them. -/
  period : Duration
  /-- Whether moments that were missed are made up for. -/
  makesUp : Bool
  deriving DecidableEq, Repr

namespace Timer

/-- A moment that is due at once. -/
def start (now : Timestamp) (period : Duration) (makesUp : Bool) : Timer := ⟨now, period, makesUp⟩

/-- Whether the moment has come. -/
def isDue (now : Timestamp) (t : Timer) : Bool := t.due.nanos ≤ now.nanos

/-- How late a moment may be noticed without counting as missed. -/
def tolerance : Duration := .ofMillis 5

/-- The timer after its moment has been noticed. After a missed moment the next one comes a whole
period from now, unless missed ones are made up for.

Here there is a moment after any period. The clock of a machine has a last one: there a period that
leads beyond it, of some hundred thousand million years, is cut short, or after a missed moment
makes the monitor break off. That is not modelled. -/
def advance (now : Timestamp) (t : Timer) : Timer :=
  if (t.due.later tolerance).nanos < now.nanos ∧ !t.makesUp then
    { t with due := now.later t.period }
  else { t with due := t.due.later t.period }

end Timer

/-- What the monitor is doing. -/
inductive Monitor.Activity
  /-- Waiting for a moment. -/
  | idle
  /-- Sweeping. -/
  | sweeping (s : Sweep)
  /-- Bringing all ledgers up to date. -/
  | reconciling (r : ReconcileAll)
  deriving DecidableEq, Repr

/-- The monitor at work. -/
structure Monitor where
  /-- When to sweep. -/
  refresh : Timer
  /-- When to bring the ledgers up to date. -/
  reconcile : Timer
  /-- When to forget old records. -/
  cleanup : Timer
  /-- What it is doing. -/
  activity : Monitor.Activity
  deriving DecidableEq, Repr

namespace Monitor

/-- The time between two rounds of forgetting. -/
def cleanupInterval : Duration := .ofSeconds 300

/-- The monitor between two activities: it ends if it has been asked to. -/
def settle (g : Gateway) (m : Monitor) : Progress Monitor (Ending Unit) :=
  if g.closing then .ended (.returned (.ok ())) else .waiting { m with activity := .idle }

/-- Starts the monitor; the first moment of each kind comes at once. -/
def start (p : Policy) (now : Timestamp) (g : Gateway) : Progress Monitor (Ending Unit) :=
  if p.refreshInterval.nanos = 0 ∨ p.staleAfter.nanos = 0 then .ended (.crashed .zeroPeriod)
  else settle g
    { refresh := .start now p.refreshInterval false
      reconcile := .start now p.staleAfter false
      cleanup := .start now cleanupInterval true
      activity := .idle }

/-- What is waited for; the moments and the polls of a sweep have numbers. -/
def queries (m : Monitor) : List (Nat × Query) :=
  match m.activity with
  | .idle => [(0, .moment m.refresh.due), (1, .moment m.reconcile.due), (2, .moment m.cleanup.due)]
  | .sweeping s => s.queries
  | .reconciling r => [(0, r.query)]

/-- What follows a step of a sweep. -/
def afterSweep (m : Monitor) (g : Gateway) : Progress Sweep Nat → Progress Monitor (Ending Unit)
  | .waiting s => .waiting { m with activity := .sweeping s }
  | .ended _ => settle g m

/-- What follows a step of bringing the ledgers up to date. -/
def afterReconcile (m : Monitor) (g : Gateway) :
    Progress ReconcileAll Unit → Progress Monitor (Ending Unit)
  | .waiting r => .waiting { m with activity := .reconciling r }
  | .ended () => settle g m

/-- Does what the moment with a number is for, once it has come. -/
def act (p : Policy) (now : Timestamp) (g : Gateway) (m : Monitor) (i : Nat) :
    Gateway × Progress Monitor (Ending Unit) :=
  if i = 0 ∧ m.refresh.isDue now then
    let m := { m with refresh := m.refresh.advance now }
    let (g, progress) := Sweep.start g
    (g, afterSweep m g progress)
  else if i = 1 ∧ m.reconcile.isDue now then
    let m := { m with reconcile := m.reconcile.advance now }
    (g, afterReconcile m g (ReconcileAll.start g.knownAccounts))
  else if i = 2 ∧ m.cleanup.isDue now then
    let m := { m with cleanup := m.cleanup.advance now }
    match g.evict now p.retention with
    | .ok (g, _) => (g, settle g m)
    | .error crash => (g, .ended (.crashed crash))
  else (g, .waiting m)

/-- Goes on with an answer. -/
def resume (p : Policy) (now : Timestamp) (g : Gateway) (m : Monitor) (i : Nat) (reply : Reply) :
    Gateway × Progress Monitor (Ending Unit) :=
  match m.activity, reply with
  | .idle, .done => act p now g m i
  | .idle, _ => (g, .waiting m)
  | .sweeping s, reply =>
    let (g, progress) := s.resume p now g i reply
    (g, afterSweep m g progress)
  | .reconciling r, reply =>
    let (g, progress) := r.resume now g reply
    (g, afterReconcile m g progress)

end Monitor

end TxGateway
