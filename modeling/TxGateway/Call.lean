import TxGateway.Call.Monitor
import TxGateway.Call.Recover
import TxGateway.Call.Submit

/-!
# Calls

What clients and the gateway itself set going, and a call of any kind in progress. A call asks its
questions by number: most have one question at a time, a sweep has one for each of its polls.
-/

namespace TxGateway

/-- What can be set going. -/
inductive Task
  /-- Bring the ledger of an account up to date. -/
  | reconcile (account : Address)
  /-- Hand out a nonce. -/
  | obtain (account : Address) (choice : NonceChoice)
  /-- Give a nonce back. -/
  | giveBack (account : Address) (nonce : Nat)
  /-- Make the ledger of an account stale. -/
  | expire (account : Address)
  /-- Tell the nonce that would be handed out. -/
  | currentNonce (account : Address)
  /-- Ask the chain for the outcome of a transaction. -/
  | poll (hash : TxHash)
  /-- The same on behalf of a client, with everything that follows from a change. -/
  | settle (hash : TxHash)
  /-- Submit a transaction. -/
  | submit (request : Request)
  /-- Take in what the store holds; the signer holds these accounts. -/
  | recover (held : List Address)
  /-- Bring all ledgers up to date. -/
  | reconcileAll
  /-- Poll every live transaction. -/
  | sweep
  /-- Sweep, reconcile and forget at regular times. -/
  | monitor
  /-- Check the store. -/
  | storeHealth
  /-- Check the store and the chain. -/
  | readiness
  deriving DecidableEq, Repr

/-- What a call gives when it returns. -/
inductive Outcome
  /-- It is done. -/
  | done
  /-- A nonce. -/
  | nonce (n : Nat)
  /-- What a poll has observed. -/
  | observed (o : Watchlist.Observation)
  /-- A submission. -/
  | submitted (s : Submission)
  /-- How many things there were. -/
  | counted (n : Nat)
  /-- Whether the store can be reached. -/
  | storeHealth (ok : Bool)
  /-- Whether the store and the chain can be reached. -/
  | readiness (store chain : Bool)
  deriving DecidableEq, Repr

/-- A call in progress. -/
inductive Call
  | reconcile (account : Address) (stage : Reconcile)
  | obtain (account : Address) (choice : NonceChoice) (stage : Obtain)
  | giveBack (account : Address) (nonce : Nat)
  | expire (account : Address)
  | currentNonce (account : Address) (stage : CurrentNonce)
  | poll (stage : Poll)
  | settle (stage : Settle)
  | submit (stage : Submit)
  | recover (stage : Recover)
  | reconcileAll (stage : ReconcileAll)
  | sweep (stage : Sweep)
  | monitor (stage : Monitor)
  | chore (stage : Chore)
  | storeHealth
  /-- The readiness of the gateway; the health of the store comes first. -/
  | readiness (store : Option Bool)
  deriving DecidableEq, Repr

namespace Progress

/-- Embeds the stages of a call and maps its result. -/
def map {σ τ α β : Type} (f : σ → τ) (g : α → β) : Progress σ α → Progress τ β
  | waiting call => waiting (f call)
  | ended result => ended (g result)

end Progress

namespace Call

/-- What a nonce call returns: the nonce, unless the caller has named it. -/
def nonceOutcome : NonceChoice → Nat → Outcome
  | .next, n => .nonce n
  | .named _, _ => .done

/-- Sets a task going. Some tasks need nothing from outside. -/
def start (p : Policy) (now : Timestamp) (g : Gateway) :
    Task → Gateway × Progress Call (Ending Outcome)
  | .reconcile a => (g, .waiting (reconcile a .asking))
  | .obtain a choice =>
    let (g, stage) := Obtain.start a g
    (g, .waiting (obtain a choice stage))
  | .giveBack a n =>
    if g.ledgers.contains a then (g, .waiting (giveBack a n))
    else (g, .ended (.returned (.error (.unknownAccount a))))
  | .expire a =>
    if g.ledgers.contains a then (g, .waiting (expire a)) else (g, .ended (.ofValue .done))
  | .currentNonce a => (g, .waiting (currentNonce a (CurrentNonce.start a g)))
  | .poll h => (g, (Poll.start h g).map poll (.ofResult .observed))
  | .settle h => (g, (Settle.start h g).map settle (.ofResult .observed))
  | .submit request => (g, .waiting (submit (Submit.start request g)))
  | .recover held => (g, .waiting (recover (.listing held)))
  | .reconcileAll =>
    (g, (ReconcileAll.start g.knownAccounts).map reconcileAll fun _ => .ofValue .done)
  | .sweep =>
    let (g, progress) := Sweep.start g
    (g, progress.map sweep (.ofValue ∘ .counted))
  | .monitor => (g, (Monitor.start p now g).map monitor (.map fun _ => .done))
  | .storeHealth => (g, .waiting storeHealth)
  | .readiness => (g, .waiting (readiness none))

/-- The questions of a call, each with its number. -/
def queries : Call → List (Nat × Query)
  | reconcile a stage => [(0, stage.query a)]
  | obtain a _ stage => [(0, stage.query a)]
  | giveBack a _ | expire a => [(0, .turn a)]
  | currentNonce a stage => [(0, stage.query a)]
  | poll stage => [(0, stage.query)]
  | settle stage => [(0, stage.query)]
  | submit stage => [(0, stage.query)]
  | recover stage => [(0, stage.query)]
  | reconcileAll stage => [(0, stage.query)]
  | sweep stage => stage.queries
  | monitor stage => stage.queries
  | chore stage => [(0, stage.query)]
  | storeHealth | readiness none => [(0, .storeHealth)]
  | readiness (some _) => [(0, .chainHealth)]

/-- Whether an answer to a question about health is good. -/
def isHealthy : Reply → Bool
  | .health ok => ok
  | .done => true
  | _ => false

/-- Goes on with an answer to the question with a number. -/
def proceed (p : Policy) (now : Timestamp) (g : Gateway) (c : Call) (slot : Nat) (reply : Reply) :
    Gateway × Progress Call (Ending Outcome) :=
  match c with
  | reconcile a stage =>
    let (g, progress) := stage.resume a now g reply
    (g, progress.map (reconcile a) (.ofResult .nonce))
  | obtain a choice stage =>
    let (g, progress) := stage.resume a choice now g reply
    (g, progress.map (obtain a choice) (.ofResult (nonceOutcome choice)))
  | giveBack a n =>
    let (g, result) := g.giveBack a n
    (g, .ended (.ofResult (fun _ => .done) result))
  | expire a => (g.expire a, .ended (.ofValue .done))
  | currentNonce a stage =>
    (g, (stage.resume a g reply).map (currentNonce a) (.ofResult .nonce))
  | poll stage =>
    let (g, progress) := stage.resume p now g reply
    (g, progress.map poll (.ofResult .observed))
  | settle stage =>
    let (g, progress) := stage.resume p now g reply
    (g, progress.map settle (.ofResult .observed))
  | submit stage =>
    let (g, progress) := stage.resume p now g reply
    (g, progress.map submit (.map .submitted))
  | recover stage =>
    let (g, progress) := stage.resume now g reply
    (g, progress.map recover (.ofResult .counted))
  | reconcileAll stage =>
    let (g, progress) := stage.resume now g reply
    (g, progress.map reconcileAll fun _ => .ofValue .done)
  | sweep stage =>
    let (g, progress) := stage.resume p now g slot reply
    (g, progress.map sweep (.ofValue ∘ .counted))
  | monitor stage =>
    let (g, progress) := stage.resume p now g slot reply
    (g, progress.map monitor (.map fun _ => .done))
  | chore stage =>
    let (g, progress) := stage.resume g reply
    (g, progress.map chore fun _ => .ofValue .done)
  | storeHealth => (g, .ended (.ofValue (.storeHealth (isHealthy reply))))
  | readiness none => (g, .waiting (readiness (some (isHealthy reply))))
  | readiness (some store) =>
    let chain := isHealthy reply
    (g.measure (·.healthChecked (store && chain)), .ended (.ofValue (.readiness store chain)))

/-- Whether the question with a number goes to the chain or to the signer. -/
def looksOutward (c : Call) (slot : Nat) : Bool :=
  c.queries.any fun (i, q) => i == slot && q.isOutward

/-- Goes on with what comes of the question with a number. A chain or a signer that breaks off
takes the call with it. -/
def resume (p : Policy) (now : Timestamp) (g : Gateway) (c : Call) (slot : Nat) :
    Reply → Gateway × Progress Call (Ending Outcome)
  | .crashed crash =>
    (g, if c.looksOutward slot then .ended (.crashed crash) else .waiting c)
  | reply => c.proceed p now g slot reply

/-- Drops a call where it stands; gives the chores that it leaves. -/
def abandon (g : Gateway) : Call → Gateway × List Chore
  | submit stage => stage.abandon g
  | _ => (g, [])

end Call

end TxGateway
