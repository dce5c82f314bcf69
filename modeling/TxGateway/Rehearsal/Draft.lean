import TxGateway.Ending
import TxGateway.Watchlist

/-!
# Drafts of records

A record whose times are told by how long ago they were. It becomes a record under a clock, unless
one of its times has no date.
-/

namespace TxGateway.Rehearsal

/-- A record without points in time. -/
structure Draft where
  /-- The hash of the transaction. -/
  hash : TxHash
  /-- The account that sent it. -/
  account : Address
  /-- Its nonce. -/
  nonce : Nat
  /-- Its status. -/
  status : Status := .pending
  /-- How many milliseconds ago it was sent; a negative number lies ahead. -/
  submittedAgo : Int := 0
  /-- How many milliseconds ago it was last asked for. -/
  polledAgo : Option Int := none
  deriving DecidableEq, Repr

namespace Draft

/-- The point in time a number of milliseconds ago. -/
def moment (now : Timestamp) (millis : Int) : Except Crash Timestamp :=
  match now.goBack (millis * 1000000) with
  | .tooLong => .error .spanOverflow
  | .outsideCalendar => .error .outsideCalendar
  | .at t => .ok t

/-- The record that is meant at a point in time. -/
def record (d : Draft) (now : Timestamp) : Except Crash Record := do
  let submittedAt ← moment now d.submittedAgo
  let lastPolledAt ← d.polledAgo.mapM (moment now)
  pure { id := ⟨0⟩, hash := d.hash, account := d.account, nonce := d.nonce, status := d.status
         submittedAt, lastPolledAt }

end Draft

end TxGateway.Rehearsal
