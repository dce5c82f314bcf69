import TxGateway.Metrics.Exposition
import TxGateway.Rehearsal.Draft
import TxGateway.Rehearsal.Stage

/-!
# The steps of a rehearsal

A step asks something of the gateway, looks at it, or changes its surroundings.
-/

namespace TxGateway.Rehearsal

/-- What the surroundings are told. -/
inductive Direction
  /-- The confirmed count of an account. -/
  | count (account : Address) (n : Nat)
  /-- The receipt of a transaction. -/
  | receipt (hash : TxHash) (receipt : Option Receipt)
  /-- The gas limit of a transaction that the chain knows. -/
  | transaction (hash : TxHash) (gasLimit : Option Word)
  /-- The price of gas. -/
  | price (price : Price)
  /-- Whether the chain says that it works. -/
  | health (ok : Bool)
  /-- What happens to signed bytes. -/
  | reception (r : Reception)
  /-- Whether and why a request to the chain fails. -/
  | trouble (gate : Gate) (t : Option Trouble)
  /-- Whether and why a service of the store fails. -/
  | storeTrouble (service : Service) (detail : Option String)
  /-- What the signer does instead of signing. -/
  | signer (refusal : Option String) (fixed : Option Bytes)
  /-- An account in the store. -/
  | storedAccount (account : Address)
  /-- A gate is closed. -/
  | close (gate : Gate)
  deriving DecidableEq, Repr

/-- What can be looked at. -/
inductive View
  /-- Whether a ledger has to be brought up to date. -/
  | needsReconcile (account : Address) (maxAge : Duration)
  /-- The pending nonces of an account. -/
  | pending (account : Address)
  /-- The accounts with a ledger. -/
  | knownAccounts
  /-- The hashes of live transactions. -/
  | pendingHashes
  /-- What is known about a transaction. -/
  | lookup (hash : TxHash)
  /-- How many records there are of each status. -/
  | stats
  /-- The text of the metrics. -/
  | metrics
  /-- How often each request has been made to the chain. -/
  | requests
  /-- The bytes that have been sent. -/
  | broadcasts
  /-- Everything in the store. -/
  | store
  /-- A record in the store. -/
  | stored (hash : TxHash)
  deriving DecidableEq, Repr

/-- A step of a rehearsal. -/
inductive Step
  /-- Sets a task going. -/
  | task (t : Task)
  /-- Lets the gateway recover with the accounts of the signer. -/
  | recover
  /-- Sends a request to the gateway. -/
  | inquire (q : Http.Inquiry)
  /-- Begins to watch a transaction. -/
  | watch (draft : Draft)
  /-- Takes in a stored record. -/
  | restore (draft : Draft)
  /-- Puts a record into the store. -/
  | store (draft : Draft)
  /-- Forgets old records. -/
  | evict (olderThan : Duration)
  /-- Asks the monitor to end. -/
  | stopMonitor
  /-- Looks at something. -/
  | look (v : View)
  /-- Changes the surroundings. -/
  | direct (d : Direction)
  /-- Opens a gate. -/
  | openGate (gate : Gate)
  /-- Lets one answer through a gate. -/
  | passGate (gate : Gate)
  /-- Moves the clock. -/
  | advance (d : Duration)
  /-- Starts the gateway anew. -/
  | restart
  /-- Starts a step in the background. -/
  | spawn (id : String) (step : Step)
  /-- Asks for the answer of a step in the background. -/
  | join (id : String)
  /-- Cancels a step in the background. -/
  | abort (id : String)

/-- What a step answers. -/
inductive Answer
  | done
  | number (n : Nat)
  | truth (b : Bool)
  | text (s : String)
  | accounts (as : List Address)
  | hashes (hs : List TxHash)
  | numbers (ns : List Nat)
  | counts (cs : List (String × Nat))
  | bytes (bs : List Bytes)
  | record (r : Option Record)
  | observed (o : Watchlist.Observation)
  | submitted (s : Submission)
  | store (accounts : List Address) (records : List Record)
  | response (r : Http.Response)
  | failure (e : Failure)
  | crash (c : Crash)
  /-- The step in the background has no answer yet. -/
  | running
  /-- There is no such step in the background. -/
  | unknown
  /-- The step in the background was cancelled. -/
  | cancelled
  /-- The answer of a step in the background. -/
  | joined (a : Answer)

namespace Answer

/-- The answer to something that may fail and gives nothing. -/
def ofResult : Except Failure Unit → Answer
  | .ok () => done
  | .error e => failure e

/-- The answer to a task that has returned. -/
def ofOutcome : Outcome → Answer
  | .done => done
  | .nonce n | .counted n => number n
  | .observed o => observed o
  | .submitted s => submitted s
  | .storeHealth ok => truth ok
  | .readiness stored reached => truth (stored && reached)

/-- The answer to a task that has ended; a request is answered by a response. -/
def ofEnding (form : Option (Http.Form × Bool)) : Ending Outcome → Answer
  | .crashed c => crash c
  | .returned result => match form with
    | some (form, bodyless) =>
      let r := form.response result
      response (if bodyless then r.withoutBody else r)
    | none => match result with
      | .ok outcome => ofOutcome outcome
      | .error e => failure e

end Answer

namespace Direction

/-- The surroundings after they have been told something. -/
def apply {α : Type} (s : Stage α) : Direction → Stage α
  | count a n => { s with chain := { s.chain with counts := s.chain.counts.set a n } }
  | receipt h r =>
    let receipts := match r with
      | some r => s.chain.receipts.set h r
      | none => s.chain.receipts.erase h
    { s with chain := { s.chain with receipts := receipts } }
  | transaction h limit =>
    let transactions := match limit with
      | some limit => s.chain.transactions.set h limit
      | none => s.chain.transactions.erase h
    { s with chain := { s.chain with transactions := transactions } }
  | price p => { s with chain := { s.chain with price := p } }
  | health ok => { s with chain := { s.chain with healthy := ok } }
  | reception r => { s with chain := { s.chain with reception := r } }
  | trouble g t =>
    let troubles := match t with
      | some t => s.chain.troubles.set g t
      | none => s.chain.troubles.erase g
    { s with chain := { s.chain with troubles := troubles } }
  | storeTrouble service detail =>
    let troubles := match detail with
      | some detail => s.store.troubles.set service detail
      | none => s.store.troubles.erase service
    { s with store := { s.store with troubles := troubles } }
  | signer refusal fixed => { s with signer := s.signer.instruct refusal fixed }
  | storedAccount a => { s with store := s.store.note a }
  | close g => if g ∈ s.closed then s else { s with closed := g :: s.closed }

end Direction

namespace View

/-- Records in the order of their hashes. -/
def sortedRecords (rs : List Record) : List Record :=
  rs.mergeSort fun r q => r.hash.bits.toNat ≤ q.hash.bits.toNat

/-- What there is to see. -/
def see {α : Type} (s : Stage α) : View → Answer
  | needsReconcile a maxAge => .truth (s.gateway.needsReconcile s.clock a maxAge)
  | pending a => .numbers (s.gateway.pendingNonces a)
  | knownAccounts => .accounts (Address.sorted s.gateway.knownAccounts)
  | pendingHashes => .hashes (TxHash.sorted s.gateway.watchlist.live)
  | lookup h => .record (s.gateway.watchlist.lookup? h)
  | stats => .counts s.gateway.watchlist.stats
  | metrics => .text s.metrics.text
  | requests => .counts <| Gate.all.filterMap fun g =>
    (s.chain.asked.get? g).map fun n => (g.name, n)
  | broadcasts => .bytes s.chain.sent
  | store => .store (Address.sorted s.store.accounts) (sortedRecords s.store.records.values)
  | stored h => .record (s.store.records.get? h)

end View

namespace Stage

/-- Where a step stands after it has begun. -/
inductive Begun
  /-- It has its answer. -/
  | answered (a : Answer)
  /-- A call has been set going. -/
  | call (ref : CallRef) (form : Option (Http.Form × Bool))

/-- Begins a task. -/
def beginTask (s : Stage Answer) (t : Task) (form : Option (Http.Form × Bool)) :
    Stage Answer × Begun :=
  let (s, ref) := s.start t
  (s, .call ref form)

/-- Does something with the record of a draft, unless there is none. -/
def withRecord (s : Stage Answer) (d : Draft) (f : Record → Stage Answer × Answer) :
    Stage Answer × Begun :=
  match d.record s.clock with
  | .error c => (s, .answered (.crash c))
  | .ok r =>
    let (s, a) := f r
    (s, .answered a)

/-- Hands the answer of a background step over; it is handed over once. -/
def join (s : Stage Answer) (id : String) : Stage Answer × Answer :=
  let taken := { s with jobs := s.jobs.erase id }
  match s.jobs.get? id with
  | none => (s, .unknown)
  | some (.done a) => (taken, .joined a)
  | some .cancelled => (taken, .joined .cancelled)
  | some (.call ref form) => match s.endings.get? ref with
    | none => (s, .running)
    | some ending => (taken, .joined (Answer.ofEnding form ending))

/-- Cancels a background step unless it has ended. -/
def abort (s : Stage Answer) (id : String) : Stage Answer :=
  match s.jobs.get? id with
  | some (.call ref _) =>
    if s.endings.contains ref then s
    else { s.cancel ref with jobs := s.jobs.set id .cancelled }
  | _ => s

/-- Begins a step. -/
def begin (s : Stage Answer) : Step → Stage Answer × Begun
  | .task t => s.beginTask t none
  | .recover => s.beginTask (.recover s.signer.accounts) none
  | .inquire q => match Http.handle s.policy s.clock s.gateway q with
    | .answered r => (s, .answered (.response r))
    | .pending t form bodyless => s.beginTask t (some (form, bodyless))
  | .watch d => s.withRecord d fun r =>
    let (s, result) := s.modify (·.watch r)
    (s, Answer.ofResult result)
  | .restore d => s.withRecord d fun r => ((s.modify fun g => (g.restore r, ())).1, .done)
  | .store d => s.withRecord d fun r => ({ s with store := s.store.save r }, .done)
  | .evict d => match s.gateway.evict s.clock d with
    | .error c => (s, .answered (.crash c))
    | .ok (g, n) => ((s.modify fun _ => (g, ())).1, .answered (.number n))
  | .stopMonitor => ((s.modify fun g => ({ g with closing := true }, ())).1, .answered .done)
  | .look v => (s, .answered (v.see s))
  | .direct d => (d.apply s, .answered .done)
  | .openGate g =>
    let (s, n) := s.openGate g
    (s, .answered (.number n))
  | .passGate g =>
    let (s, b) := s.passGate g
    (s, .answered (.truth b))
  | .advance d => (s.advance d, .answered .done)
  | .restart => (s.restart, .answered .done)
  | .join id =>
    let (s, a) := s.join id
    (s, .answered a)
  | .abort id => (s.abort id, .answered .done)
  | .spawn id step => match s.begin step with
    | (s, .answered a) => ({ s with jobs := s.jobs.set id (.done a) }, .answered .done)
    | (s, .call ref form) =>
      ({ (s.run ref) with jobs := s.jobs.set id (.call ref form) }, .answered .done)

/-- Takes a step. -/
def perform (s : Stage Answer) (step : Step) : Stage Answer × Answer :=
  match s.begin step with
  | (s, .answered a) => (s, a)
  | (s, .call ref form) =>
    let s := s.runInFront ref
    match s.endings.get? ref with
    | none => (s, .running)
    | some ending => (s, Answer.ofEnding form ending)

/-- The report on the ledger of an account after a step. -/
def ledger? (s : Stage Answer) (a : Address) : Option Ledger.Snapshot :=
  s.gateway.snapshot? s.clock a

/-- What the gateway knows about a transaction after a step. -/
def record? (s : Stage Answer) (h : TxHash) : Option Record := s.gateway.watchlist.lookup? h

/-- The hash of the bytes that were sent as the n-th ones. -/
def sentHash? (s : Stage Answer) (n : Nat) : Option TxHash :=
  s.chain.sent[n]?.map fun raw => .ofBytes (Keccak.hash raw)

end Stage

end TxGateway.Rehearsal
