import TxGateway.Query

/-!
# A store for rehearsals

Accounts and records in the order in which they first came in. Each of its services can be told to
fail.
-/

namespace TxGateway.Rehearsal

/-- What a store does. -/
inductive Service
  | noteAccount
  | listAccounts
  | saveRecord
  | listRecords
  | health
  deriving DecidableEq, Repr

/-- A store. -/
structure Store where
  /-- The accounts that have been noted. -/
  accounts : List Address := []
  /-- The records by hash. -/
  records : Table TxHash Record := ∅
  /-- The services that fail. -/
  troubles : Table Service String := ∅

namespace Store

instance : Inhabited Store := ⟨{}⟩

/-- Notes an account. -/
def note (s : Store) (a : Address) : Store :=
  if a ∈ s.accounts then s else { s with accounts := s.accounts ++ [a] }

/-- Stores a record in place of an earlier one. -/
def save (s : Store) (r : Record) : Store := { s with records := s.records.set r.hash r }

/-- A service that may have been told to fail. -/
def serve (s : Store) (service : Service) (after : Store) (reply : Reply) : Store × Reply :=
  match s.troubles.get? service with
  | some detail => (s, .failed (.internal detail))
  | none => (after, reply)

/-- The answer to a question for the store. -/
def ask (s : Store) : Query → Option (Store × Reply)
  | .noteAccount a => some (s.serve .noteAccount (s.note a) .done)
  | .saveRecord r => some (s.serve .saveRecord (s.save r) .done)
  | .storedAccounts => some (s.serve .listAccounts s (.accounts s.accounts))
  | .storedRecords => some (s.serve .listRecords s (.records s.records.values))
  | .storeHealth => some (s.serve .health s .done)
  | _ => none

end Store

end TxGateway.Rehearsal
