import TxGateway.System

/-!
# A world that stands still

As long as the chain confirms nothing and nothing is written to the store, each question of a
recovery has one answer. A call that gets these answers one after another, with nothing in between,
is carried through; the answers may come at any times.
-/

namespace TxGateway

/-- What is outside of a gateway. -/
structure World where
  /-- The confirmed count of each account. -/
  count : Address → Nat
  /-- The remembered accounts. -/
  accounts : List Address
  /-- The stored records. -/
  records : List Record

namespace World

/-- The answer to a question. A turn at a ledger is there at once; nothing is told about anything
else. -/
def answer (w : World) : Query → Reply
  | .count a => .count (w.count a)
  | .turn _ => .done
  | .storedAccounts => .accounts w.accounts
  | .storedRecords => .records w.records
  | _ => .silence

/-- So many answers are enough for a recovery: one for each list, two for each account, and four for
each record. -/
def enough (w : World) (held : List Address) : Nat :=
  2 + 2 * (w.accounts.length + held.length) + 4 * w.records.length

/-- Two worlds that differ at most in the order in which the store gives accounts and records. -/
structure Reorders (w w' : World) : Prop where
  /-- The counts are the same. -/
  count_eq : w'.count = w.count
  /-- The accounts are the same. -/
  accounts_perm : w'.accounts.Perm w.accounts
  /-- The records are the same. -/
  records_perm : w'.records.Perm w.records

end World

namespace System

/-- Gives a call the answers of a world, one at each of some points in time, until it ends. -/
def attend (p : Policy) (w : World) (i : Nat) (s : System) :
    List Timestamp → System × Option (Ending Outcome)
  | [] => (s, none)
  | t :: ts => match s.queries i with
    | [] => (s, none)
    | (slot, q) :: _ =>
      let (s, effect) := s.reply p t i slot (w.answer q)
      match effect.ending with
      | some ending => (s, some ending)
      | none => s.attend p w i ts

/-- Sets a recovery going and carries it through; the signer holds some accounts. -/
def recoverIn (p : Policy) (w : World) (held : List Address) (s : System) (now : Timestamp)
    (ts : List Timestamp) : System × Option (Ending Outcome) :=
  let (s, effect) := s.start p now (.recover held)
  s.attend p w effect.call ts

end System

end TxGateway
