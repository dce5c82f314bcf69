import TxGateway.Failure
import TxGateway.Receipt.Json

/-!
# Stored rows

A record as the columns of a table, and back. Accounts and hashes are stored as text, a nonce as a
signed number of 64 bits, a status as its name beside an optional receipt. What a decoder complains
of in a value that is no receipt is worded by the decoder, and passed on.
-/

namespace TxGateway.Storage

/-- The columns of a stored record. -/
structure Row where
  /-- The hash as text. -/
  hash : String
  /-- The serial number of the submission. -/
  id : SubmissionId
  /-- The account as text. -/
  account : String
  /-- The nonce as a signed number of 64 bits. -/
  nonce : Int
  /-- The name of the status. -/
  status : String
  /-- The receipt as structured data. -/
  receipt : Option Json
  /-- When the transaction was sent. -/
  submittedAt : Timestamp
  /-- When it was last polled. -/
  lastPolledAt : Option Timestamp

namespace Row

/-- A nonce as a signed number of 64 bits. -/
def signed (nonce : Nat) : Int := (BitVec.ofNat 64 nonce).toInt

/-- The nonce that a signed number of 64 bits stands for. -/
def unsigned (n : Int) : Nat := (BitVec.ofInt 64 n).toNat

/-- The columns in which a record is stored. -/
def ofRecord (r : Record) : Row where
  hash := r.hash.text
  id := r.id
  account := r.account.text
  nonce := signed r.nonce
  status := r.status.label
  receipt := r.status.receipt?.map Receipt.toJson
  submittedAt := r.submittedAt
  lastPolledAt := r.lastPolledAt

/-- The account in a column. -/
def account? (s : String) : Except Failure Address :=
  match Address.read s with
  | .ok a => .ok a
  | .error fault => .error (.internal ("Invalid address " ++ s ++ ": " ++ fault.message))

/-- The hash in a column. -/
def hash? (s : String) : Except Failure TxHash :=
  match TxHash.read s with
  | .ok h => .ok h
  | .error fault => .error (.internal ("Invalid tx hash " ++ s ++ ": " ++ fault.message))

/-- The receipt in a column of the row of a hash, given what the decoder complains of. -/
def receipt? (complaint : Json → String) (hash : String) :
    Option Json → Except Failure (Option Receipt)
  | none => .ok none
  | some v => match Receipt.ofJson? v with
    | some r => .ok (some r)
    | none => .error (.internal ("Corrupt receipt for " ++ hash ++ ": " ++ complaint v))

/-- The status in two columns. -/
def status? (label : String) (receipt : Option Receipt) : Except Failure Status :=
  match Status.ofLabel? label receipt with
  | some s => .ok s
  | none => .error (.internal ("Unreadable stored status: " ++ label))

/-- The record that is stored in a row; of several faults, that of the receipt comes first, then
hash, account and status. -/
def toRecord (complaint : Json → String) (r : Row) : Except Failure Record := do
  let receipt ← receipt? complaint r.hash r.receipt
  let hash ← hash? r.hash
  let account ← account? r.account
  let status ← status? r.status receipt
  pure
    { id := r.id
      hash := hash
      account := account
      nonce := unsigned r.nonce
      submittedAt := r.submittedAt
      status := status
      lastPolledAt := r.lastPolledAt }

end Row

end TxGateway.Storage
