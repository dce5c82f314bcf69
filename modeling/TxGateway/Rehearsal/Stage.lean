import TxGateway.Http.Exchange
import TxGateway.Rehearsal.Signer
import TxGateway.Rehearsal.Store
import TxGateway.System

/-!
# The stage of a rehearsal

A gateway over a chain, a signer and a store that have been told what to do, under a clock that
moves only when it is told to. A question is answered at once unless its gate is closed; then the
answer, which is fixed when the question comes, waits behind the gate until the gate opens or the
patience of the call ends. A call that asks several questions may go on after one answer and not
care for the others any more; then they are forgotten. A gateway can be restarted; calls of an
earlier one go on with it.
-/

namespace TxGateway.Rehearsal

/-- The number of a gateway and of one of its calls. -/
abbrev CallRef := Nat × Nat

/-- An answer that waits. -/
structure Ticket where
  /-- The call that waits. -/
  call : CallRef
  /-- The number of the question. -/
  slot : Nat
  /-- The question. -/
  query : Query
  /-- The gate that holds the answer up, and the answer. -/
  held : Option (Gate × Reply)
  /-- When the call stops waiting, and what it gets then. -/
  due : Option (Timestamp × Reply)

/-- A step that runs in the background. -/
inductive Job (α : Type)
  /-- It has its answer. -/
  | done (answer : α)
  /-- A call that may have ended. -/
  | call (ref : CallRef) (form : Option (Http.Form × Bool))
  /-- It was cancelled. -/
  | cancelled

/-- Everything on the stage; `α` is what background steps answer. -/
structure Stage (α : Type) where
  /-- The rules of the gateway. -/
  policy : Policy := {}
  /-- The time. -/
  clock : Timestamp := ⟨1700000000000000000⟩
  /-- The chain. -/
  chain : Chain := {}
  /-- The signer. -/
  signer : Signer := .scribe {}
  /-- The store. -/
  store : Store := {}
  /-- The gates that are closed. -/
  closed : List Gate := []
  /-- The gateways, by number. -/
  systems : Table Nat System := ∅
  /-- The number of the gateway that serves now. -/
  current : Nat := 0
  /-- The metrics, which outlive a gateway. -/
  metrics : Registry := .empty
  /-- The answers that wait, in the order of the questions. -/
  tickets : List Ticket := []
  /-- The calls that have ended. -/
  endings : Table CallRef (Ending Outcome) := ∅
  /-- The steps in the background. -/
  jobs : Table String (Job α) := ∅
  /-- The call that the rehearsal itself waits for. -/
  front : Option CallRef := none

namespace Stage

variable {α : Type}

instance : Inhabited (Stage α) := ⟨{}⟩

/-- A gateway by number. -/
def system (s : Stage α) (n : Nat) : System := (s.systems.get? n).getD {}

/-- The gateway that serves now. -/
def gateway (s : Stage α) : Gateway := { (s.system s.current).gateway with metrics := s.metrics }

/-- Changes a gateway, which shares the metrics with all others. -/
def update {β : Type} (s : Stage α) (n : Nat) (f : System → System × β) : Stage α × β :=
  let system := s.system n
  let (system, b) := f { system with gateway := { system.gateway with metrics := s.metrics } }
  ({ s with systems := s.systems.set n system, metrics := system.gateway.metrics }, b)

/-- Changes the state of the gateway that serves now. -/
def modify {β : Type} (s : Stage α) (f : Gateway → Gateway × β) : Stage α × β :=
  s.update s.current fun system =>
    let (g, b) := f system.gateway
    ({ system with gateway := g }, b)

/-- What the surroundings answer to a question, and the gate that the answer passes. -/
def consult (s : Stage α) (q : Query) : Stage α × Reply × Option Gate :=
  match s.chain.ask q with
  | some (chain, reply, gate) => ({ s with chain := chain }, reply, gate)
  | none => match s.signer.ask q with
    | some (signer, reply, gate) => ({ s with signer := signer }, reply, gate)
    | none => match s.store.ask q with
      | some (store, reply) => ({ s with store := store }, reply, none)
      | none => (s, .done, none)

/-- The question of a call with a number. -/
def query? (s : Stage α) (ref : CallRef) (slot : Nat) : Option Query :=
  (((s.system ref.1).queries ref.2).find? fun e => e.1 = slot).map Prod.snd

/-- A question that is still to be put. -/
abbrev Errand := CallRef × Nat

/-- Puts a question: the answer, or a ticket for it. The call in front does not wait: if it has
patience at all, that ends at once. -/
def put (s : Stage α) (ref : CallRef) (slot : Nat) (q : Query) : Stage α × Option Reply :=
  match q with
  | .moment t =>
    if t.nanos ≤ s.clock.nanos then (s, some .done)
    else ({ s with tickets := s.tickets ++ [⟨ref, slot, q, none, some (t, .done)⟩] }, none)
  | q =>
    let (s, reply, gate) := s.consult q
    let patience := s.policy.patience? q
    match gate with
    | none => (s, some reply)
    | some g =>
      if g ∉ s.closed then (s, some reply)
      else if s.front = some ref then (s, some (if patience.isSome then .silence else reply))
      else
        let due := patience.map fun d => (s.clock.later d, Reply.silence)
        ({ s with tickets := s.tickets ++ [⟨ref, slot, q, some (g, reply), due⟩] }, none)

/-- The questions of a call that have neither been put nor are about to be. -/
def fresh (s : Stage α) (todo : List Errand) (ref : CallRef) : List Errand :=
  let errands := ((s.system ref.1).queries ref.2).map fun (slot, _) => (ref, slot)
  errands.filter fun e =>
    e ∉ todo ∧ !s.tickets.any fun t => decide (t.call = e.1 ∧ t.slot = e.2)

/-- Forgets the tickets of a call for questions that it does not ask any more. -/
def discard (s : Stage α) (ref : CallRef) : Stage α :=
  let questions := (s.system ref.1).queries ref.2
  { s with tickets := s.tickets.filter fun t => t.call ≠ ref ∨ (t.slot, t.query) ∈ questions }

/-- Gives a call the answer to one of its questions; also gives what is to be asked next. The call
goes on with that question first. -/
def deliver (s : Stage α) (todo : List Errand) (ref : CallRef) (slot : Nat) (reply : Reply) :
    Stage α × List Errand :=
  let (s, effect) := s.update ref.1 fun system =>
    system.reply s.policy s.clock ref.2 slot reply
  let s := match effect.ending with
    | some ending => { s with endings := s.endings.set ref ending }
    | none => s
  let s := s.discard ref
  let (same, others) := (s.fresh todo ref).partition fun e => e.2 = slot
  let chores := effect.chores.flatMap fun n => s.fresh [] (ref.1, n)
  (s, same ++ todo ++ others ++ chores)

/-- Puts questions until all calls wait, at most `fuel` of them. -/
def drain : (fuel : Nat) → List Errand → Stage α → Stage α
  | 0, _, s => s
  | _, [], s => s
  | fuel + 1, (ref, slot) :: todo, s =>
    match s.query? ref slot with
    | none => drain fuel todo s
    | some q => match s.put ref slot q with
      | (s, none) => drain fuel todo s
      | (s, some reply) =>
        let (s, todo) := s.deliver todo ref slot reply
        drain fuel todo s

/-- More questions than any step of a rehearsal asks. -/
def horizon : Nat := 100000000

/-- Lets all calls go on until they wait. -/
def settle (s : Stage α) (todo : List Errand) : Stage α := drain horizon todo s

/-- Ends the wait of a ticket with an answer. -/
def release (s : Stage α) (t : Ticket) (reply : Reply) : Stage α :=
  let left := s.tickets.filter fun u => u.call ≠ t.call ∨ u.slot ≠ t.slot
  let (s, todo) := { s with tickets := left }.deliver [] t.call t.slot reply
  s.settle todo

/-- The answers that wait behind a gate. -/
def behind (s : Stage α) (g : Gate) : List (Ticket × Reply) :=
  s.tickets.filterMap fun t => match t.held with
    | some (h, reply) => if h = g then some (t, reply) else none
    | none => none

/-- Opens a gate; gives how many answers waited behind it. -/
def openGate (s : Stage α) (g : Gate) : Stage α × Nat :=
  let waiting := s.behind g
  let s := { s with closed := s.closed.filter (· ≠ g) }
  (waiting.foldl (fun s (t, reply) => s.release t reply) s, waiting.length)

/-- Lets the first answer through a gate; tells whether there was one. -/
def passGate (s : Stage α) (g : Gate) : Stage α × Bool :=
  match s.behind g with
  | [] => (s, false)
  | (t, reply) :: _ => (s.release t reply, true)

/-- The ticket that is due first, and what its call gets. -/
def nextDue? (s : Stage α) : Option (Timestamp × Ticket × Reply) :=
  s.tickets.foldl (fun best t =>
    match t.due, best with
    | none, best => best
    | some (u, reply), none =>
      if u.nanos ≤ s.clock.nanos then some (u, t, reply) else none
    | some (u, reply), some b =>
      if u.nanos < b.1.nanos then some (u, t, reply) else some b) none

/-- Ends the waits that are due, the earliest first, at most `fuel` of them. -/
def expireDue : (fuel : Nat) → Stage α → Stage α
  | 0, s => s
  | fuel + 1, s => match s.nextDue? with
    | none => s
    | some (_, t, reply) => expireDue fuel (s.release t reply)

/-- Moves the clock. -/
def advance (s : Stage α) (d : Duration) : Stage α :=
  expireDue horizon { s with clock := s.clock.later d }

/-- Sets a task going; gives the number of its call. It may have ended already. -/
def start (s : Stage α) (task : Task) : Stage α × CallRef :=
  let (s, effect) := s.update s.current fun system => system.start s.policy s.clock task
  let ref : CallRef := (s.current, effect.call)
  match effect.ending with
  | some ending => ({ s with endings := s.endings.set ref ending }, ref)
  | none => (s, ref)

/-- Lets a call that has been set going run until it waits. -/
def run (s : Stage α) (ref : CallRef) : Stage α := s.settle (s.fresh [] ref)

/-- Lets a call run in front. -/
def runInFront (s : Stage α) (ref : CallRef) : Stage α :=
  { ({ s with front := some ref } : Stage α).run ref with front := none }

/-- Drops a call. -/
def cancel (s : Stage α) (ref : CallRef) : Stage α :=
  let (s, effect) := s.update ref.1 fun system => system.abandon ref.2
  let s := { s with tickets := s.tickets.filter fun t => t.call ≠ ref }
  s.settle (effect.chores.flatMap fun n => s.fresh [] (ref.1, n))

/-- Puts a new gateway on the stage. -/
def restart (s : Stage α) : Stage α :=
  let n := s.current + 1
  { s with
    current := n
    systems := s.systems.set n { gateway := { startedAt := s.clock } } }

/-- The stage before the first step. -/
def opening (policy : Policy) (counts : Table Address Nat) (signer : Signer) : Stage α :=
  let s : Stage α := { policy := policy, chain := { counts := counts }, signer := signer }
  { s with systems := s.systems.set 0 { gateway := { startedAt := s.clock } } }

end Stage

end TxGateway.Rehearsal
