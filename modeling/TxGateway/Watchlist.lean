import TxGateway.Table
import TxGateway.Transaction

/-!
# The watchlist

Every transaction that has been sent is watched under its hash. For each account and nonce the
watchlist also knows which hash uses it now; while that transaction is live no other one may be
entered for the same account and nonce.
-/

namespace TxGateway

/-- The watched transactions. -/
structure Watchlist where
  /-- What is known about each hash. -/
  records : Table TxHash Record := ∅
  /-- The hash that uses a nonce of an account. -/
  holders : Table (Address × Nat) TxHash := ∅

namespace Watchlist

instance : Inhabited Watchlist := ⟨{}⟩

/-- What is known about a hash. -/
def lookup? (w : Watchlist) (h : TxHash) : Option Record := w.records.get? h

/-- The live transaction that uses a nonce of an account, if there is one. -/
def liveHolder? (w : Watchlist) (account : Address) (nonce : Nat) : Option TxHash :=
  match w.holders.get? (account, nonce) with
  | none => none
  | some h => match w.records.get? h with
    | some r => if r.isLive then some h else none
    | none => none

/-- Why a transaction cannot be entered. -/
inductive Conflict
  /-- The hash is watched already. -/
  | known (hash : TxHash)
  /-- A live transaction uses the nonce. -/
  | inUse (account : Address) (nonce : Nat) (holder : TxHash)
  deriving DecidableEq, Repr

namespace Conflict

/-- The wording of a conflict. -/
def message : Conflict → String
  | known hash => "transaction " ++ hash.text ++ " recorded twice"
  | inUse account nonce holder =>
    "nonce " ++ toString nonce ++ " of " ++ account.text ++ " already tracked by live transaction "
      ++ holder.text

end Conflict

/-- Enters a transaction that has just been sent. -/
def enter (w : Watchlist) (r : Record) : Except Conflict Watchlist :=
  if w.records.contains r.hash then .error (.known r.hash)
  else match w.liveHolder? r.account r.nonce with
    | some h => .error (.inUse r.account r.nonce h)
    | none => .ok
      { records := w.records.set r.hash r, holders := w.holders.set (r.account, r.nonce) r.hash }

/-- Takes in a stored record. A final record never hides a live one of the same nonce. -/
def restore (w : Watchlist) (r : Record) : Watchlist :=
  let hidden := (w.liveHolder? r.account r.nonce).isSome && r.status.isFinal
  { records := w.records.set r.hash r
    holders := if hidden then w.holders else w.holders.set (r.account, r.nonce) r.hash }

/-- A record after a poll has observed a status; `changed` tells whether it became final by it. -/
structure Observation where
  /-- The record afterwards. -/
  record : Record
  /-- Whether this poll made the record final. -/
  changed : Bool
  deriving DecidableEq, Repr

/-- Takes in a status observed by a poll; a final status stays. None if the hash is not watched. -/
def polled? (w : Watchlist) (h : TxHash) (now : Timestamp) (status : Status) :
    Option (Watchlist × Observation) :=
  match w.records.get? h with
  | none => none
  | some r =>
    let record := { r with
      status := if r.isLive then status else r.status
      lastPolledAt := some now }
    some ({ w with records := w.records.set h record },
      { record := record, changed := r.isLive && status.isFinal })

/-- The hashes of all live transactions. -/
def live (w : Watchlist) : List TxHash :=
  w.records.entries.filterMap fun (h, r) => if r.isLive then some h else none

/-- Whether a record is final and was last touched before a point in time. -/
def isExpired (cutoff : Timestamp) (r : Record) : Bool :=
  r.status.isFinal && decide (r.touchedAt.nanos < cutoff.nanos)

/-- Removes the expired records, and the entries for nonces that pointed to them. -/
def purge (w : Watchlist) (cutoff : Timestamp) : Watchlist :=
  let gone (h : TxHash) : Bool := (w.records.get? h).any (isExpired cutoff)
  { records := w.records.filter fun _ r => !isExpired cutoff r
    holders := w.holders.filter fun key h =>
      !(gone h && (w.records.get? h).any fun r => decide ((r.account, r.nonce) = key)) }

/-- How many records expire at a point in time. -/
def expiring (w : Watchlist) (cutoff : Timestamp) : Nat :=
  (w.records.values.filter (isExpired cutoff)).length

/-- How many records have a status of a given name. -/
def countOf (w : Watchlist) (label : String) : Nat :=
  (w.records.values.filter fun r => r.status.label = label).length

/-- The number of records for each status that occurs, in the order of the names. -/
def stats (w : Watchlist) : List (String × Nat) :=
  ["confirmed", "dropped", "failed", "out_of_gas", "pending"].filterMap fun label =>
    if w.countOf label = 0 then none else some (label, w.countOf label)

end Watchlist

end TxGateway
