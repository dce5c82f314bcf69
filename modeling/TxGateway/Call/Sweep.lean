import TxGateway.Call.Poll

/-!
# Sweeps

A sweep polls every live transaction once, eight at a time, and counts those that came to an
outcome. A poll that fails is passed over.
-/

namespace TxGateway

/-- A sweep in progress. -/
structure Sweep where
  /-- Transactions that have not been polled yet. -/
  waiting : List TxHash
  /-- The polls in progress, each with a number of its own. -/
  running : List (Nat × Settle)
  /-- How many polls have been begun. -/
  begun : Nat
  /-- How many transactions came to an outcome. -/
  settled : Nat
  deriving DecidableEq, Repr

namespace Sweep

/-- The greatest number of polls at the same time. -/
def width : Nat := 8

/-- Begins polls until there are enough or none is left. A poll that has its answer already ends
without having waited. -/
def fill (g : Gateway) (running : List (Nat × Settle)) (begun settled : Nat) :
    List TxHash → Sweep
  | [] => ⟨[], running, begun, settled⟩
  | h :: rest =>
    if width ≤ running.length then ⟨h :: rest, running, begun, settled⟩
    else match Settle.start h g with
      | .waiting poll => fill g (running ++ [(begun, poll)]) (begun + 1) settled rest
      | .ended _ => fill g running (begun + 1) settled rest

/-- The sweep after some polls have ended. -/
def proceed (g : Gateway) (s : Sweep) : Progress Sweep Nat :=
  let s := fill g s.running s.begun s.settled s.waiting
  if s.running.isEmpty then .ended s.settled else .waiting s

/-- Begins a sweep over the transactions that are live now. -/
def start (g : Gateway) : Gateway × Progress Sweep Nat :=
  let live := g.watchlist.live
  let g := g.measure (·.openTransactions live.length)
  (g, proceed g ⟨live, [], 0, 0⟩)

/-- What is waited for, by the numbers of the polls. -/
def queries (s : Sweep) : List (Nat × Query) := s.running.map fun (i, poll) => (i, poll.query)

/-- The poll with a number. -/
def poll? (s : Sweep) (i : Nat) : Option Settle :=
  (s.running.find? fun entry => entry.1 = i).map Prod.snd

/-- Whether a poll that has ended made a transaction final. -/
def hasSettled : Except Failure Watchlist.Observation → Bool
  | .ok o => o.changed
  | .error _ => false

/-- Goes on with an answer to the poll with a number. -/
def resume (p : Policy) (now : Timestamp) (g : Gateway) (s : Sweep) (i : Nat) (reply : Reply) :
    Gateway × Progress Sweep Nat :=
  match s.poll? i with
  | none => (g, .waiting s)
  | some poll => match poll.resume p now g reply with
    | (g, .waiting poll) =>
      let running := s.running.map fun entry => if entry.1 = i then (i, poll) else entry
      (g, .waiting { s with running := running })
    | (g, .ended result) =>
      let running := s.running.filter fun entry => entry.1 ≠ i
      let settled := if hasSettled result then s.settled + 1 else s.settled
      (g, proceed g { s with running := running, settled := settled })

end Sweep

end TxGateway
