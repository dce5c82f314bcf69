import TxGateway.Json.Reader
import TxGateway.Transaction

/-!
# Receipts and transactions as structured data
-/

namespace TxGateway

namespace Word

/-- A word as structured data. -/
def toJson (w : Word) : Json := .string w.text

/-- Reads a word from a text of 1 to 64 digits. -/
def reader : Json.Reader Word :=
  .written fun s => (Hex.packedNat? 32 s).map (BitVec.ofNat 256)

end Word

namespace Address

/-- An account as structured data. -/
def toJson (a : Address) : Json := .string a.text

/-- Reads an account from a text of 40 digits. -/
def reader : Json.Reader Address := .written packed?

end Address

namespace TxHash

/-- A hash as structured data. -/
def toJson (h : TxHash) : Json := .string h.text

end TxHash

namespace Receipt

/-- A receipt as structured data. -/
def toJson (r : Receipt) : Json :=
  .object
    [("block_number", .ofOption .nat r.blockNumber),
      ("gas_used", r.gasUsed.toJson),
      ("success", .bool r.success),
      ("effective_gas_price", .ofOption Word.toJson r.effectiveGasPrice)]

/-- A receipt of which some fields have been read. -/
structure Draft where
  /-- The block, if read. -/
  blockNumber : Option (Option Nat) := none
  /-- The gas burnt, if read. -/
  gasUsed : Option Word := none
  /-- The success, if read. -/
  success : Option Bool := none
  /-- The price, if read. -/
  effectiveGasPrice : Option (Option Word) := none

namespace Draft

/-- The fields of a receipt in their order. -/
def fields : List (Json.Field Draft) :=
  [.ofReader "block_number" blockNumber (fun d a => { d with blockNumber := some a })
      (.optional .natural),
    .ofReader "gas_used" gasUsed (fun d a => { d with gasUsed := some a }) Word.reader,
    .ofReader "success" success (fun d a => { d with success := some a }) .bool,
    .ofReader "effective_gas_price" effectiveGasPrice
      (fun d a => { d with effectiveGasPrice := some a }) (.optional Word.reader)]

/-- The receipt, once the fields that it cannot do without have been read. -/
def finish (d : Draft) : Option Receipt := do
  let gasUsed ← d.gasUsed
  let success ← d.success
  pure ⟨d.blockNumber.getD none, gasUsed, success, d.effectiveGasPrice.getD none⟩

end Draft

/-- Reads a receipt. -/
def reader : Json.Reader Receipt := .record Draft.fields {} Draft.finish

/-- The receipt that a text denotes. -/
def ofText? (s : String) : Option Receipt := reader.ofWholeText? s

/-- The receipt that a value denotes. -/
def ofJson? (v : Json) : Option Receipt := reader.ofJson? v

end Receipt

namespace Timestamp

/-- A point in time as structured data. -/
def toJson (t : Timestamp) : Json := .string t.text

end Timestamp

namespace SubmissionId

/-- The written form: the serial number in the place of a random identifier of 128 bits. -/
def text (id : SubmissionId) : String :=
  let ds := Hex.ofBytes (Bytes.ofNat 16 (id.serial + 0x40008000000000000000))
  String.ofList (ds.take 8 ++ '-' :: (ds.drop 8).take 4 ++ '-' :: (ds.drop 12).take 4
    ++ '-' :: (ds.drop 16).take 4 ++ '-' :: ds.drop 20)

end SubmissionId

namespace Status

/-- The members by which a status shows in structured data. -/
def members (s : Status) : List (String × Json) :=
  ("status", .string s.tag) :: match s.receipt? with
    | none => []
    | some r => [("receipt", r.toJson)]

end Status

namespace Record

/-- The members of a record in structured data. -/
def members (r : Record) : List (String × Json) :=
  [("submission_id", .string r.id.text),
    ("tx_hash", r.hash.toJson),
    ("account", r.account.toJson),
    ("nonce", .nat r.nonce),
    ("submitted_at", r.submittedAt.toJson)]
    ++ r.status.members
    ++ [("last_polled_at", .ofOption Timestamp.toJson r.lastPolledAt)]

/-- A record as structured data. -/
def toJson (r : Record) : Json := .object r.members

end Record

end TxGateway
