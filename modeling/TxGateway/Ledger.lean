import TxGateway.Timestamp

/-!
# The nonce ledger of an account

A ledger knows how many transactions of its account the chain has confirmed, which nonces have been
handed out since, and the nonce with which it grows. A nonce that is given back becomes a hole;
holes are filled from the lowest before the ledger grows. The confirmed count only ever rises.

A nonce is a number of 64 bits, and the program as it is released does not check the sum that leads
to the next one: once the greatest nonce has been handed out, the ledger begins again at 0. A build
that checks sums breaks off at that point with the call that asks for the nonce; until then it does
the same, and what it does afterwards is not modelled.
-/

namespace TxGateway

/-- The nonces of one account. -/
structure Ledger where
  /-- The nonce that is handed out when there is no hole. -/
  next : Nat := 0
  /-- Nonces handed out and neither confirmed nor given back, ascending. -/
  pending : List Nat := []
  /-- The greatest confirmed count that the chain has told. -/
  confirmed : Nat := 0
  /-- When the chain was last asked; none before the first time and after an alarm. -/
  refreshedAt : Option Timestamp := none
  /-- Whether the chain has been asked at all. -/
  seeded : Bool := false
  deriving DecidableEq, Repr

namespace Ledger

/-- The greatest nonce. -/
def lastNonce : Nat := Nat.pow 2 64 - 1

/-- The nonce after a nonce; the sum wraps, so that after the greatest one comes the first. -/
def following (n : Nat) : Nat := (n + 1) % Nat.pow 2 64

/-- Adds a nonce to an ascending list that does not hold it. -/
def insertAscending (n : Nat) : List Nat → List Nat
  | [] => [n]
  | p :: ps => if n < p then n :: p :: ps
    else if n = p then p :: ps
    else p :: insertAscending n ps

/-- The least number from a start on that an ascending list does not hold. -/
def firstFree (start : Nat) : List Nat → Nat
  | [] => start
  | p :: ps => if p < start then firstFree start ps
    else if p = start then firstFree (start + 1) ps
    else start

/-- Pulls a number back to a floor, over the numbers in front of it that a list does not hold. -/
def rollBack (floor : Nat) (ps : List Nat) : Nat → Nat
  | 0 => 0
  | n + 1 => if floor ≤ n ∧ n ∉ ps then rollBack floor ps n else n + 1

/-- The lowest nonce that has been handed out before and is free again. -/
def lowestHole? (l : Ledger) : Option Nat :=
  let n := firstFree l.confirmed l.pending
  if n < l.next then some n else none

/-- The nonce that would be handed out now. -/
def upcoming (l : Ledger) : Nat := l.lowestHole?.getD l.next

/-- Hands out the next nonce. -/
def handOut (l : Ledger) : Nat × Ledger :=
  match l.lowestHole? with
  | some hole => (hole, { l with pending := insertAscending hole l.pending })
  | none =>
    (l.next, { l with next := following l.next, pending := insertAscending l.next l.pending })

/-- Why a nonce chosen by the caller is not free. -/
inductive Refusal
  /-- The chain has confirmed a transaction with it. -/
  | confirmed (count : Nat)
  /-- It has been handed out. -/
  | pending
  deriving DecidableEq, Repr

namespace Refusal

/-- The wording of a refusal. -/
def message : Refusal → String
  | confirmed count => "already confirmed (chain count " ++ toString count ++ ")"
  | pending => "already pending"

end Refusal

/-- Hands out a nonce chosen by the caller. -/
def claim (l : Ledger) (n : Nat) : Except Refusal Ledger :=
  if n < l.confirmed then .error (.confirmed l.confirmed)
  else if n ∈ l.pending then .error .pending
  else .ok { l with
    pending := insertAscending n l.pending
    next := if l.next ≤ n then following n else l.next }

/-- Takes a nonce back; none if it is not pending. The next nonce is pulled back over the numbers
in front of it that are free now. -/
def giveBack? (l : Ledger) (n : Nat) : Option Ledger :=
  if n ∈ l.pending then
    let left := l.pending.filter (· ≠ n)
    some { l with pending := left, next := rollBack l.confirmed left l.next }
  else none

/-- Takes in a confirmed count told by the chain. A count that is no news changes nothing but the
time of the last question; the first count also moves the next nonce. -/
def confirm (l : Ledger) (now : Timestamp) (count : Nat) : Ledger :=
  let next := if l.seeded then l.next else max l.next count
  if count ≤ l.confirmed then
    { l with refreshedAt := some now, seeded := true, next := next }
  else
    { next := max next count
      pending := l.pending.filter (count ≤ ·)
      confirmed := count
      refreshedAt := some now
      seeded := true }

/-- Forgets when the chain was last asked, so that it is asked before the next submission. -/
def expire (l : Ledger) : Ledger := { l with refreshedAt := none }

/-- Whether the chain was not asked within a length of time. -/
def isStale (l : Ledger) (now : Timestamp) (maxAge : Duration) : Bool :=
  match l.refreshedAt with
  | none => true
  | some t => maxAge.nanos < (now.since t).nanos

/-- What is reported about a ledger. -/
structure Snapshot where
  /-- The nonce that is handed out when there is no hole. -/
  next : Nat
  /-- The pending nonces, ascending. -/
  pending : List Nat
  /-- The confirmed count. -/
  confirmed : Nat
  /-- How many whole seconds ago the chain was asked. -/
  refreshedSecondsAgo : Option Nat
  deriving DecidableEq, Repr

/-- The report on a ledger at a point in time. -/
def snapshot (l : Ledger) (now : Timestamp) : Snapshot where
  next := l.next
  pending := l.pending
  confirmed := l.confirmed
  refreshedSecondsAgo := l.refreshedAt.map fun t => (now.since t).toSeconds

end Ledger

end TxGateway
