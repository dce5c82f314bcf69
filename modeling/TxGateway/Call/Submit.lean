import TxGateway.Call.Obtain
import TxGateway.Crypto.Keccak

/-!
# Submitting a transaction

A submission brings an old ledger up to date, gets a nonce, a price and a signature, and hands the
signed bytes to the node. A nonce goes back only when the bytes certainly never reached the node.
From the moment of the broadcast on the node may hold the transaction, so it is watched whatever
the outcome, except after an outright refusal.

A submission can be abandoned while it waits. Whatever it still owes then, it leaves to a chore,
which runs on its own.
-/

namespace TxGateway

/-- What an abandoned submission leaves to be done. -/
inductive Chore
  /-- A nonce waits to be given back. -/
  | releasing (account : Address) (nonce : Nat)
  /-- The nonce has been given back; the ledger waits to be made stale. -/
  | expiring (account : Address)
  /-- A record waits to be stored. -/
  | saving (record : Record)
  deriving DecidableEq, Repr

namespace Chore

/-- What is waited for. -/
def query : Chore → Query
  | releasing a _ | expiring a => .turn a
  | saving r => .saveRecord r

/-- Goes on with an answer. -/
def resume (g : Gateway) : Chore → Reply → Gateway × Progress Chore Unit
  | releasing a n, .done => ((g.giveBack a n).1, .waiting (.expiring a))
  | expiring a, .done => (g.expire a, .ended ())
  | saving _, .done | saving _, .failed _ => (g, .ended ())
  | chore, _ => (g, .waiting chore)

end Chore

/-- The hash by which signed bytes are known. -/
def TxHash.ofRaw (raw : Bytes) : TxHash := .ofBytes (Keccak.hash raw)

/-- Where a submission stands. -/
inductive Submit.Stage
  /-- Waiting for a turn at the ledger, to see how old it is. -/
  | aging
  /-- The ledger is being brought up to date. -/
  | refreshing (r : Reconcile)
  /-- The account is being remembered. -/
  | noting
  /-- A nonce is being got. -/
  | obtaining (o : Obtain)
  /-- The nonce is held; the price of gas has been asked for. -/
  | pricing (nonce : Nat)
  /-- The nonce is held; a signature has been asked for. -/
  | signing (nonce : Nat) (price : Price)
  /-- The signed bytes are on their way; the record is ready. -/
  | broadcasting (record : Record) (raw : Bytes)
  /-- The nonce waits to be given back before the submission fails. -/
  | returning (nonce : Nat) (failure : Failure)
  /-- The outcome is unknown; the record is being stored before the submission fails. -/
  | holding (record : Record) (failure : Failure)
  /-- The node has the transaction; the record is being stored. -/
  | saving (submission : Submission) (record : Record)
  deriving DecidableEq, Repr

/-- A submission in progress. -/
structure Submit where
  /-- What is submitted. -/
  request : Request
  /-- Where it stands. -/
  stage : Submit.Stage
  deriving DecidableEq, Repr

namespace Submit

/-- Goes on to get a nonce. -/
def toObtain (request : Request) (g : Gateway) :
    Gateway × Progress Submit (Ending Submission) :=
  let (g, o) := Obtain.start request.account g
  (g, .waiting ⟨request, .obtaining o⟩)

/-- Begins a submission. An account without a ledger is brought up to date at once. -/
def start (request : Request) (g : Gateway) : Submit :=
  if g.ledgers.contains request.account then ⟨request, .aging⟩
  else ⟨request, .refreshing .asking⟩

/-- What is waited for. -/
def query (c : Submit) : Query :=
  let a := c.request.account
  match c.stage with
  | .aging => .turn a
  | .refreshing r => r.query a
  | .noting => .noteAccount a
  | .obtaining o => o.query a
  | .pricing _ => .gasPrice
  | .signing nonce price => .signature a c.request.payload nonce price
  | .broadcasting _ raw => .broadcast raw
  | .returning _ _ => .turn a
  | .holding record _ => .saveRecord record
  | .saving _ record => .saveRecord record

/-- The submission fails. -/
def fail (g : Gateway) (e : Failure) : Gateway × Progress Submit (Ending Submission) :=
  (g, .ended (.returned (.error e)))

/-- The signed bytes are there: the submission gets its serial number and is sent. -/
def send (now : Timestamp) (g : Gateway) (request : Request) (nonce : Nat) (raw : Bytes) :
    Gateway × Progress Submit (Ending Submission) :=
  let (g, id) := g.issueId
  let submission : Submission := ⟨id, request.account, nonce, TxHash.ofRaw raw⟩
  (g, .waiting ⟨request, .broadcasting (.fresh now submission) raw⟩)

/-- The node has the transaction. It is watched under the hash that the node reports. -/
def accept (now : Timestamp) (g : Gateway) (c : Submit) (sent : Record) (hash : TxHash) :
    Gateway × Progress Submit (Ending Submission) :=
  let submission : Submission := ⟨sent.id, sent.account, sent.nonce, hash⟩
  let record := Record.fresh now submission
  match g.watch record with
  | (g, .ok ()) => (g, .waiting { c with stage := .saving submission record })
  | (g, .error e) => fail g e

/-- The outcome is unknown. The transaction is watched under the hash of its bytes, and stored if
that was possible. -/
def hold (g : Gateway) (c : Submit) (sent : Record) (e : Failure) :
    Gateway × Progress Submit (Ending Submission) :=
  match g.watch sent with
  | (g, .ok ()) => (g, .waiting { c with stage := .holding sent e })
  | (g, .error _) => fail g e

/-- The nonce goes back before the submission fails. -/
def returnNonce (g : Gateway) (c : Submit) (nonce : Nat) (e : Failure) :
    Gateway × Progress Submit (Ending Submission) :=
  (g, .waiting { c with stage := .returning nonce e })

/-- Whether a failure is a refusal by the node. -/
def isRefusal : Failure → Bool
  | .rejected .. => true
  | _ => false

/-- Goes on with an answer. -/
def resume (p : Policy) (now : Timestamp) (g : Gateway) (c : Submit) (reply : Reply) :
    Gateway × Progress Submit (Ending Submission) :=
  let a := c.request.account
  let again := fun stage => (g, Progress.waiting { c with stage := stage })
  match c.stage, reply with
  | .aging, .done =>
    if g.needsReconcile now a p.staleAfter then again (.refreshing .asking)
    else toObtain c.request g
  | .refreshing r, reply => match r.resume a now g reply with
    | (g, .waiting r) => (g, .waiting { c with stage := .refreshing r })
    | (g, .ended (.ok _)) => (g, .waiting { c with stage := .noting })
    | (g, .ended (.error e)) => fail g e
  | .noting, .done | .noting, .failed _ => toObtain c.request g
  | .obtaining o, reply => match o.resume a c.request.choice now g reply with
    | (g, .waiting o) => (g, .waiting { c with stage := .obtaining o })
    | (g, .ended (.ok nonce)) => (g, .waiting { c with stage := .pricing nonce })
    | (g, .ended (.error e)) => fail g e
  | .pricing nonce, .price price => match p.gas.buffered? price with
    | some price => again (.signing nonce price)
    | none => (g, .ended (.crashed .priceOverflow))
  | .pricing nonce, .failed e => returnNonce g c nonce e
  | .signing nonce _, .signed raw => send now g c.request nonce raw
  | .signing nonce _, .failed e => returnNonce g c nonce e
  | .broadcasting record _, .accepted hash => accept now g c record hash
  | .broadcasting record _, .rejected reason =>
    returnNonce g c record.nonce (.rejected a record.nonce reason)
  | .broadcasting record _, .unreachable detail =>
    hold g c record (.network "broadcast" detail)
  | .broadcasting record _, .silence => hold g c record (.timeout "broadcast")
  | .returning nonce e, .done =>
    let (g, _) := g.giveBack a nonce
    fail (if isRefusal e then g.measure (·.submissionRejected) else g) e
  | .holding _ e, .done | .holding _ e, .failed _ => fail g e
  | .saving submission _, .done | .saving submission _, .failed _ =>
    (g.measure (·.transactionSubmitted), .ended (.returned (.ok submission)))
  | stage, _ => again stage

/-- Drops a submission where it stands. A nonce that is held and was never sent is left to be given
back; a transaction on its way is watched at once and left to be stored. A submission that is
giving its nonce back already owes nothing more. -/
def abandon (g : Gateway) (c : Submit) : Gateway × List Chore :=
  match c.stage with
  | .pricing nonce | .signing nonce _ => (g, [.releasing c.request.account nonce])
  | .broadcasting record _ => match g.watch record with
    | (g, .ok ()) => (g, [.saving record])
    | (g, .error _) => (g, [])
  | _ => (g, [])

end Submit

end TxGateway
