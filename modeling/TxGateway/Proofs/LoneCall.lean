import TxGateway.Proofs.GatewayLaws
import TxGateway.System

/-!
# Calls that run on their own

A task that is carried out with nothing else in between amounts to one operation on the gateway, or
to two if the ledger has never been brought up to date.
-/

namespace TxGateway.System

/-- Sets a task going and gives its call answers one after another, with nothing in between. -/
def carryOut (p : Policy) (now : Timestamp) (s : System) (t : Task) (replies : List Reply) :
    System × Option (Ending Outcome) :=
  let (s, effect) := s.start p now t
  replies.foldl (fun
    | (s, some ending), _ => (s, some ending)
    | (s, none), reply =>
      let (s, effect) := s.reply p now effect.call 0 reply
      (s, effect.ending)) (s, effect.ending)

variable (p : Policy) (now : Timestamp) (s : System) (a : Address)

theorem carryOut_obtain (choice : NonceChoice) {g : Gateway} {result : Except Failure Nat}
    (hs : (s.gateway.ledger a).seeded = true) (h : s.gateway.obtain a choice = (g, some result)) :
    let r := s.carryOut p now (.obtain a choice) [.done]
    r.1.gateway = g ∧ r.2 = some (.ofResult (Call.nonceOutcome choice) result) := by
  have hstay := s.gateway.ensureLedger_of_contains a (s.gateway.contains_of_seeded a hs)
  simp [carryOut, System.start, Call.start, Obtain.start, enroll, System.reply, Call.resume,
    Call.proceed, Obtain.resume, Progress.map, Ending.ofResult, hstay, h]

theorem carryOut_obtain_first (choice : NonceChoice) (count : Nat) {g : Gateway}
    {result : Except Failure Nat} (hs : (s.gateway.ledger a).seeded = false)
    (h : ((s.gateway.ensureLedger a).reconcile now a count).1.obtain a choice = (g, some result)) :
    let r := s.carryOut p now (.obtain a choice) [.done, .count count, .done, .done]
    r.1.gateway = g ∧ r.2 = some (.ofResult (Call.nonceOutcome choice) result) := by
  have hfirst : (s.gateway.ensureLedger a).obtain a choice = (s.gateway.ensureLedger a, none) := by
    simp [Gateway.obtain, hs]
  simp [carryOut, System.start, Call.start, Obtain.start, enroll, System.reply, Call.resume,
    Call.proceed, Obtain.resume, Reconcile.resume, Progress.map, Ending.ofResult, hfirst, h]

theorem carryOut_reconcile (count : Nat) :
    let r := s.carryOut p now (.reconcile a) [.count count, .done]
    r.1.gateway = (s.gateway.reconcile now a count).1 ∧
      r.2 = some (.ofValue (.nonce ((s.gateway.ledger a).confirm now count).next)) := by
  simp [carryOut, System.start, Call.start, enroll, System.reply, Call.resume, Call.proceed,
    Reconcile.resume, Progress.map, Ending.ofResult, Ending.ofValue, Gateway.reconcile, Except.map]

theorem carryOut_giveBack (n : Nat) :
    let known := s.gateway.ledgers.contains a
    let r := s.carryOut p now (.giveBack a n) (if known then [.done] else [])
    r.1.gateway = (s.gateway.giveBack a n).1 ∧
      r.2 = some (if known then .ofValue .done else .returned (.error (.unknownAccount a))) := by
  cases hget : s.gateway.ledgers.get? a with
  | none => simp [carryOut, System.start, Call.start, Table.contains, Gateway.giveBack, hget]
  | some l =>
      cases hback : l.giveBack? n with
      | none =>
          simp [carryOut, System.start, Call.start, enroll, System.reply, Call.resume, Call.proceed,
            Table.contains, Gateway.giveBack, hget, hback, Ending.ofResult, Ending.ofValue,
            Except.map]
      | some t =>
          simp [carryOut, System.start, Call.start, enroll, System.reply, Call.resume, Call.proceed,
            Table.contains, Gateway.giveBack, hget, hback, Ending.ofResult, Ending.ofValue,
            Except.map]

theorem carryOut_expire :
    let r := s.carryOut p now (.expire a) (if s.gateway.ledgers.contains a then [.done] else [])
    r.1.gateway = s.gateway.expire a ∧ r.2 = some (.ofValue .done) := by
  cases hget : s.gateway.ledgers.get? a with
  | none => simp [carryOut, System.start, Call.start, Table.contains, Gateway.expire, hget]
  | some l =>
      simp [carryOut, System.start, Call.start, enroll, System.reply, Call.resume, Call.proceed,
        Table.contains, Gateway.expire, hget, Ending.ofValue]

/-- Asking for the current nonce changes nothing, not even by giving the account a ledger. -/
theorem carryOut_currentNonce (count : Nat) :
    let l := s.gateway.ledger a
    let r := s.carryOut p now (.currentNonce a)
      (if l.seeded then [.done]
        else if s.gateway.ledgers.contains a then [.done, .count count] else [.count count])
    r.1.gateway = s.gateway ∧
      r.2 = some (.ofValue (.nonce (if l.seeded then l.upcoming else count))) := by
  intro l r
  cases hs : (s.gateway.ledger a).seeded with
  | true =>
      have hc := s.gateway.contains_of_seeded a hs
      simp [r, l, carryOut, System.start, Call.start, enroll, System.reply, Call.resume,
        Call.proceed, CurrentNonce.start, CurrentNonce.resume, Progress.map, Ending.ofResult,
        Ending.ofValue, Except.map, hs, hc]
  | false =>
      cases hc : s.gateway.ledgers.contains a <;>
        simp [r, l, carryOut, System.start, Call.start, enroll, System.reply, Call.resume,
          Call.proceed, CurrentNonce.start, CurrentNonce.resume, Progress.map, Ending.ofResult,
          Ending.ofValue, Except.map, hs, hc]

end TxGateway.System
