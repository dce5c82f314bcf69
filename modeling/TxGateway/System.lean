import TxGateway.Call

/-!
# A gateway with its calls

All calls share one state. An event starts a call, gives a waiting call an answer, or drops it; a
run of the gateway is a sequence of events, in whatever order the answers come. A submission that
is dropped, or that crashes, leaves chores behind, which are calls of their own.
-/

namespace TxGateway

/-- A gateway and the calls in progress, by number. -/
structure System where
  /-- What all calls share. -/
  gateway : Gateway := {}
  /-- The calls in progress. -/
  calls : Table Nat Call := ∅
  /-- How many calls have been opened. -/
  opened : Nat := 0

namespace System

instance : Inhabited System := ⟨{}⟩

/-- What can happen next. -/
inductive Event
  /-- A task is set going. -/
  | start (task : Task)
  /-- A call gets the answer to one of its questions. -/
  | reply (call slot : Nat) (reply : Reply)
  /-- A call is dropped. -/
  | abandon (call : Nat)
  deriving DecidableEq, Repr

/-- What an event has brought about. -/
structure Effect where
  /-- The call that the event was about. -/
  call : Nat
  /-- How that call ended, if it did. -/
  ending : Option (Ending Outcome) := none
  /-- The calls that were opened beside it. -/
  chores : List Nat := []

/-- Opens a call. -/
def enroll (s : System) (c : Call) : System :=
  { s with calls := s.calls.set s.opened c, opened := s.opened + 1 }

/-- Opens a call for each chore; gives their numbers. -/
def enrollChores (s : System) : List Chore → System × List Nat
  | [] => (s, [])
  | c :: rest =>
    let (t, numbers) := (s.enroll (.chore c)).enrollChores rest
    (t, s.opened :: numbers)

/-- Sets a task going. -/
def start (p : Policy) (now : Timestamp) (s : System) (task : Task) : System × Effect :=
  match Call.start p now s.gateway task with
  | (g, .waiting c) => ({ s with gateway := g }.enroll c, { call := s.opened })
  | (g, .ended ending) =>
    ({ s with gateway := g, opened := s.opened + 1 }, { call := s.opened, ending := some ending })

/-- Drops a call; what it leaves is opened as chores. -/
def abandon (s : System) (i : Nat) : System × Effect :=
  match s.calls.get? i with
  | none => (s, { call := i })
  | some c =>
    let (g, chores) := c.abandon s.gateway
    let (s, numbers) := { s with gateway := g, calls := s.calls.erase i }.enrollChores chores
    (s, { call := i, chores := numbers })

/-- Gives a call the answer to one of its questions. A crash drops the call where it stood. -/
def reply (p : Policy) (now : Timestamp) (s : System) (i slot : Nat) (reply : Reply) :
    System × Effect :=
  match s.calls.get? i with
  | none => (s, { call := i })
  | some c => match c.resume p now s.gateway slot reply with
    | (g, .waiting c) => ({ s with gateway := g, calls := s.calls.set i c }, { call := i })
    | (g, .ended (.crashed crash)) =>
      let (s, effect) := { s with gateway := g }.abandon i
      (s, { effect with ending := some (.crashed crash) })
    | (g, .ended ending) =>
      ({ s with gateway := g, calls := s.calls.erase i }, { call := i, ending := some ending })

/-- What happens next. -/
def step (p : Policy) (now : Timestamp) (s : System) : Event → System × Effect
  | .start task => s.start p now task
  | .reply i slot r => s.reply p now i slot r
  | .abandon i => s.abandon i

/-- The questions of a call. -/
def queries (s : System) (i : Nat) : List (Nat × Query) :=
  match s.calls.get? i with
  | none => []
  | some c => c.queries

end System

end TxGateway
