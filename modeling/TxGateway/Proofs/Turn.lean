import TxGateway.Proofs.GatewayLaws
import TxGateway.Proofs.Run

/-!
# Turns at a ledger

A ledger changes only when a call that waits for a turn gets it. This module names what each call
does with its turn, and shows that the ledgers after any moment of a run are those before it, except
that the account of the turn has its ledger changed in that way.
-/

namespace TxGateway

/-- What a call does with its turn at a ledger. -/
inductive Turn
  /-- It takes in a confirmed count. -/
  | confirm (count : Nat)
  /-- It asks for a nonce. -/
  | obtain (choice : NonceChoice)
  /-- It gives a nonce back. -/
  | giveBack (nonce : Nat)
  /-- It makes the ledger stale. -/
  | expire
  deriving DecidableEq

/-- The ledger after a turn. -/
def Turn.apply (now : Timestamp) (l : Ledger) : Turn → Ledger
  | confirm count => l.confirm now count
  | obtain choice =>
    if !l.seeded then l
    else match choice with
      | .next => l.handOut.2
      | .named n => match l.claim n with
        | .ok t => t
        | .error _ => l
  | giveBack n => (l.giveBack? n).getD l
  | expire => l.expire

/-- The turn of bringing a ledger up to date. -/
def Reconcile.turn? : Reconcile → Reply → Option Turn
  | applying count, .done => some (.confirm count)
  | _, _ => none

/-- The turn of getting a nonce. -/
def Obtain.turn? (choice : NonceChoice) : Obtain → Reply → Option Turn
  | turn, .done => some (.obtain choice)
  | seeding r, reply => r.turn? reply
  | _, _ => none

/-- The turn of a chore. -/
def Chore.turn? : Chore → Reply → Option (Address × Turn)
  | releasing a n, .done => some (a, .giveBack n)
  | expiring a, .done => some (a, .expire)
  | _, _ => none

/-- The turn of a submission. -/
def Submit.turn? (c : Submit) (reply : Reply) : Option (Address × Turn) :=
  let a := c.request.account
  match c.stage, reply with
  | .refreshing r, reply => (r.turn? reply).map (a, ·)
  | .obtaining o, reply => (o.turn? c.request.choice reply).map (a, ·)
  | .returning n _, .done => some (a, .giveBack n)
  | _, _ => none

/-- The turn of a poll on behalf of a client. -/
def Settle.turn? : Settle → Reply → Option (Address × Turn)
  | releasing o, .done => some (o.record.account, .giveBack o.record.nonce)
  | expiring o, .done => some (o.record.account, .expire)
  | _, _ => none

/-- The turn of a poll of a sweep. -/
def Sweep.turn? (s : Sweep) (slot : Nat) (reply : Reply) : Option (Address × Turn) :=
  (s.poll? slot).bind (·.turn? reply)

/-- The turn of bringing several ledgers up to date. -/
def ReconcileAll.turn? (c : ReconcileAll) (reply : Reply) : Option (Address × Turn) :=
  (c.stage.turn? reply).map (c.account, ·)

/-- The turn of the monitor. -/
def Monitor.turn? (m : Monitor) (slot : Nat) (reply : Reply) : Option (Address × Turn) :=
  match m.activity with
  | .idle => none
  | .sweeping s => s.turn? slot reply
  | .reconciling r => r.turn? reply

/-- The turn of a recovery. -/
def Recover.turn? : Recover → Reply → Option (Address × Turn)
  | reconciling a r _, reply => (r.turn? reply).map (a, ·)
  | claiming record o _ _, reply => (o.turn? (.named record.nonce) reply).map (record.account, ·)
  | _, _ => none

/-- The turn of a call that goes on with an answer to its question with a number. -/
def Call.turnOf? (c : Call) (slot : Nat) (reply : Reply) : Option (Address × Turn) :=
  match c with
  | reconcile a stage => (stage.turn? reply).map (a, ·)
  | obtain a choice stage => (stage.turn? choice reply).map (a, ·)
  | giveBack a n => some (a, .giveBack n)
  | expire a => some (a, .expire)
  | settle stage => stage.turn? reply
  | submit stage => stage.turn? reply
  | recover stage => stage.turn? reply
  | reconcileAll stage => stage.turn? reply
  | sweep stage => stage.turn? slot reply
  | monitor stage => stage.turn? slot reply
  | chore stage => stage.turn? reply
  | _ => none

/-- The turn of a call, if an answer is one. Nobody gets a turn when the chain or the signer breaks
off. -/
def Call.turn? (c : Call) (slot : Nat) : Reply → Option (Address × Turn)
  | .crashed _ => none
  | reply => c.turnOf? slot reply

/-- The turn that a moment gives to a call, with the account of the ledger. -/
def System.turn? (s : System) (m : Moment) : Option (Address × Turn) :=
  match m.what with
  | .event (.reply i slot reply) => (s.calls.get? i).bind (·.turn? slot reply)
  | _ => none

namespace Gateway

/-- The ledger of an account after a turn at a ledger, or after none. -/
def afterTurn (g : Gateway) (now : Timestamp) (t : Option (Address × Turn)) (b : Address) :
    Ledger :=
  match t with
  | none => g.ledger b
  | some (a, t) => if b = a then t.apply now (g.ledger a) else g.ledger b

@[simp] theorem afterTurn_none (g : Gateway) (now : Timestamp) (b : Address) :
    g.afterTurn now none b = g.ledger b := rfl

@[simp] theorem afterTurn_some (g : Gateway) (now : Timestamp) (a b : Address) (t : Turn) :
    g.afterTurn now (some (a, t)) b = if b = a then t.apply now (g.ledger a) else g.ledger b := rfl

/-- Asking for a nonce is the turn of that name. -/
theorem ledger_obtain (g : Gateway) (now : Timestamp) (a b : Address) (choice : NonceChoice) :
    (g.obtain a choice).1.ledger b = g.afterTurn now (some (a, .obtain choice)) b := by
  rw [afterTurn_some]
  by_cases hs : (g.ledger a).seeded = true
  · cases choice with
    | next => simp [obtain, Turn.apply, hs]
    | named n =>
        cases hc : (g.ledger a).claim n with
        | ok l => simp [obtain, Turn.apply, hs, hc]
        | error refusal =>
            by_cases hb : b = a
            · simp [obtain, Turn.apply, hs, hc, hb]
            · simp [obtain, hs, hc, hb]
  · by_cases hb : b = a
    · simp [obtain, Turn.apply, hs, hb]
    · simp [obtain, hs, hb]

end Gateway

theorem Reconcile.ledger_resume (r : Reconcile) (a b : Address) (now : Timestamp) (g : Gateway)
    (reply : Reply) :
    (r.resume a now g reply).1.ledger b = g.afterTurn now ((r.turn? reply).map (a, ·)) b := by
  cases r with
  | asking => cases reply <;> rfl
  | applying count =>
      cases reply with
      | done => simp [resume, turn?, Turn.apply]
      | _ => rfl

theorem Obtain.ledger_resume (o : Obtain) (a b : Address) (choice : NonceChoice) (now : Timestamp)
    (g : Gateway) (reply : Reply) :
    (o.resume a choice now g reply).1.ledger b =
      g.afterTurn now ((o.turn? choice reply).map (a, ·)) b := by
  cases o with
  | turn =>
      cases reply with
      | done =>
          have h := g.ledger_obtain now a b choice
          simp only [resume, turn?, Option.map_some]
          split <;> simpa [*] using h
      | _ => rfl
  | seeding r =>
      have h := r.ledger_resume a b now g reply
      simp only [resume, turn?]
      split <;> simpa [*] using h

theorem Chore.ledger_resume (c : Chore) (now : Timestamp) (b : Address) (g : Gateway)
    (reply : Reply) : (c.resume g reply).1.ledger b = g.afterTurn now (c.turn? reply) b := by
  cases c with
  | releasing a n =>
      cases reply with
      | done => simp [resume, turn?, Turn.apply]
      | _ => rfl
  | expiring a =>
      cases reply with
      | done => simp [resume, turn?, Turn.apply]
      | _ => rfl
  | saving r => cases reply <;> rfl

theorem Submit.ledger_accept (c : Submit) (now : Timestamp) (b : Address) (g : Gateway)
    (sent : Record) (hash : TxHash) : (accept now g c sent hash).1.ledger b = g.ledger b := by
  simp only [accept]
  split <;> exact g.ledger_of_watch b ‹_›

theorem Submit.ledger_hold (c : Submit) (b : Address) (g : Gateway) (sent : Record)
    (e : Failure) : (hold g c sent e).1.ledger b = g.ledger b := by
  simp only [hold]
  split <;> exact g.ledger_of_watch b ‹_›

theorem Submit.ledger_resume (c : Submit) (p : Policy) (now : Timestamp) (b : Address) (g : Gateway)
    (reply : Reply) : (c.resume p now g reply).1.ledger b = g.afterTurn now (c.turn? reply) b := by
  obtain ⟨request, stage⟩ := c
  cases stage with
  | refreshing r =>
      have h := r.ledger_resume request.account b now g reply
      simp only [resume, turn?]
      split <;> simpa [*, fail] using h
  | obtaining o =>
      have h := o.ledger_resume request.account b request.choice now g reply
      simp only [resume, turn?]
      split <;> simpa [*, fail] using h
  | returning n e =>
      cases reply with
      | done =>
          simp only [resume, turn?, fail, Gateway.afterTurn_some, Turn.apply]
          split <;> simp
      | _ => rfl
  | aging =>
      cases reply with
      | done =>
          simp only [resume, turn?, Gateway.afterTurn_none]
          split <;> simp [toObtain, Obtain.start]
      | _ => rfl
  | noting => cases reply <;> simp [resume, turn?, toObtain, Obtain.start]
  | pricing n =>
      cases reply with
      | price price =>
          simp only [resume, turn?, Gateway.afterTurn_none]
          split <;> rfl
      | _ => rfl
  | signing n price => cases reply <;> rfl
  | broadcasting record raw =>
      cases reply with
      | accepted hash => exact ledger_accept _ now b g record hash
      | unreachable detail => exact ledger_hold _ b g record _
      | silence => exact ledger_hold _ b g record _
      | _ => rfl
  | holding record e => cases reply <;> rfl
  | saving submission record => cases reply <;> rfl

theorem Submit.ledger_abandon (c : Submit) (b : Address) (g : Gateway) :
    (c.abandon g).1.ledger b = g.ledger b := by
  simp only [abandon]
  split
  · rfl
  · rfl
  · split <;> exact g.ledger_of_watch b ‹_›
  · rfl

theorem Poll.ledger_resume (c : Poll) (p : Policy) (now : Timestamp) (b : Address) (g : Gateway)
    (reply : Reply) : (c.resume p now g reply).1.ledger b = g.ledger b := by
  simp only [resume]
  split
  · rfl
  · rfl
  · rfl
  · simp only [Poll.apply]
    split
    · rfl
    · split <;> rfl

theorem Settle.ledger_resume (c : Settle) (p : Policy) (now : Timestamp) (b : Address) (g : Gateway)
    (reply : Reply) : (c.resume p now g reply).1.ledger b = g.afterTurn now (c.turn? reply) b := by
  cases c with
  | polling poll =>
      simp only [resume, turn?, Gateway.afterTurn_none]
      exact poll.ledger_resume p now b g reply
  | releasing o =>
      cases reply with
      | done => simp [resume, turn?, Turn.apply]
      | _ => rfl
  | expiring o =>
      cases reply with
      | done => simp [resume, turn?, Turn.apply]
      | _ => rfl
  | saving o => cases reply <;> rfl

theorem Sweep.ledger_resume (s : Sweep) (p : Policy) (now : Timestamp) (b : Address) (g : Gateway)
    (slot : Nat) (reply : Reply) :
    (s.resume p now g slot reply).1.ledger b = g.afterTurn now (s.turn? slot reply) b := by
  cases hpoll : s.poll? slot with
  | none => simp [resume, turn?, hpoll]
  | some poll =>
      have h := poll.ledger_resume p now b g reply
      simp only [resume, turn?, hpoll, Option.bind_some]
      split <;> simpa [*] using h

theorem ReconcileAll.ledger_resume (c : ReconcileAll) (now : Timestamp) (b : Address) (g : Gateway)
    (reply : Reply) : (c.resume now g reply).1.ledger b = g.afterTurn now (c.turn? reply) b := by
  have h := c.stage.ledger_resume c.account b now g reply
  simp only [resume, turn?]
  split <;> simpa [*] using h

/-- What a monitor between two activities can do when a moment with a number is said to have
come. -/
inductive Monitor.Acts (p : Policy) (now : Timestamp) (g : Gateway) (m : Monitor) (i : Nat) :
    Gateway × Progress Monitor (Ending Unit) → Prop
  /-- It sweeps. -/
  | sweeps : Acts p now g m i ((Sweep.start g).1,
      { m with refresh := m.refresh.advance now }.afterSweep (Sweep.start g).1 (Sweep.start g).2)
  /-- It brings all ledgers up to date. -/
  | reconciles : Acts p now g m i (g,
      { m with reconcile := m.reconcile.advance now }.afterReconcile g
        (ReconcileAll.start g.knownAccounts))
  /-- It forgets old records. -/
  | forgets {t : Gateway} {n : Nat} (evicts : g.evict now p.retention = .ok (t, n)) :
      Acts p now g m i (t, settle t { m with cleanup := m.cleanup.advance now })
  /-- It is to forget old records, and breaks off. -/
  | breaksOff {crash : Crash} (number_eq : i = 2) (due : m.cleanup.isDue now = true)
      (evicts : g.evict now p.retention = .error crash) :
      Acts p now g m i (g, .ended (.crashed crash))
  /-- That moment has not come, and it waits on. -/
  | waits : Acts p now g m i (g, .waiting m)

theorem Monitor.acts (m : Monitor) (p : Policy) (now : Timestamp) (g : Gateway) (i : Nat) :
    m.Acts p now g i (m.act p now g i) := by
  simp only [act]
  split
  · exact .sweeps
  · split
    · exact .reconciles
    · split
      · rename_i hforgets
        split
        · exact .forgets ‹_›
        · exact .breaksOff hforgets.1 hforgets.2 ‹_›
      · exact .waits

theorem Monitor.ledger_act (m : Monitor) (p : Policy) (now : Timestamp) (b : Address)
    (g : Gateway) (i : Nat) : (m.act p now g i).1.ledger b = g.ledger b := by
  have hacts := m.acts p now g i
  generalize m.act p now g i = x at hacts ⊢
  cases hacts with
  | forgets evicts => exact g.ledger_evict b evicts
  | sweeps | reconciles | breaksOff | waits => rfl

theorem Monitor.ledger_resume (m : Monitor) (p : Policy) (now : Timestamp) (b : Address)
    (g : Gateway) (slot : Nat) (reply : Reply) :
    (m.resume p now g slot reply).1.ledger b = g.afterTurn now (m.turn? slot reply) b := by
  obtain ⟨refresh, reconcile, cleanup, activity⟩ := m
  cases activity with
  | idle =>
      cases reply with
      | done => exact ledger_act _ p now b g slot
      | _ => rfl
  | sweeping s =>
      simp only [resume, turn?]
      exact s.ledger_resume p now b g slot reply
  | reconciling r =>
      simp only [resume, turn?]
      exact r.ledger_resume now b g reply

theorem Recover.ledger_takeIn (total : Nat) (b : Address) (rs : List Record) (g : Gateway) :
    (takeIn total g rs).1.ledger b = g.ledger b := by
  induction rs generalizing g with
  | nil => rfl
  | cons r rs ih =>
      simp only [takeIn]
      split
      · simp [Obtain.start]
      · rw [ih]
        rfl

theorem Recover.ledger_resume (c : Recover) (now : Timestamp) (b : Address) (g : Gateway)
    (reply : Reply) : (c.resume now g reply).1.ledger b = g.afterTurn now (c.turn? reply) b := by
  cases c with
  | listing held => cases reply <;> rfl
  | reconciling a r rest =>
      have h := r.ledger_resume a b now g reply
      simp only [resume, turn?]
      split <;> simpa [*] using h
  | loading =>
      cases reply with
      | records rs => exact ledger_takeIn rs.length b rs g
      | _ => rfl
  | claiming record o rest total =>
      have h := o.ledger_resume record.account b (.named record.nonce) now g reply
      simp only [resume, turn?]
      split <;> simpa [*, ledger_takeIn] using h

namespace Call

theorem ledger_start (p : Policy) (now : Timestamp) (b : Address) (g : Gateway) (t : Task) :
    (start p now g t).1.ledger b = g.ledger b := by
  cases t with
  | obtain a choice => simp [start, Obtain.start]
  | giveBack a n =>
      simp only [start]
      split <;> rfl
  | expire a =>
      simp only [start]
      split <;> rfl
  | _ => rfl

theorem ledger_proceed (p : Policy) (now : Timestamp) (b : Address) (g : Gateway) (c : Call)
    (slot : Nat) (reply : Reply) :
    (c.proceed p now g slot reply).1.ledger b = g.afterTurn now (c.turnOf? slot reply) b := by
  cases c with
  | reconcile a stage => exact stage.ledger_resume a b now g reply
  | obtain a choice stage => exact stage.ledger_resume a b choice now g reply
  | giveBack a n => exact g.ledger_giveBack a b n
  | expire a => exact g.ledger_expire a b
  | currentNonce a stage => rfl
  | poll stage => exact stage.ledger_resume p now b g reply
  | settle stage => exact stage.ledger_resume p now b g reply
  | submit stage => exact stage.ledger_resume p now b g reply
  | recover stage => exact stage.ledger_resume now b g reply
  | reconcileAll stage => exact stage.ledger_resume now b g reply
  | sweep stage => exact stage.ledger_resume p now b g slot reply
  | monitor stage => exact stage.ledger_resume p now b g slot reply
  | chore stage => exact stage.ledger_resume now b g reply
  | storeHealth => rfl
  | readiness store => cases store <;> rfl

theorem ledger_resume (p : Policy) (now : Timestamp) (b : Address) (g : Gateway) (c : Call)
    (slot : Nat) (reply : Reply) :
    (c.resume p now g slot reply).1.ledger b = g.afterTurn now (c.turn? slot reply) b := by
  cases reply with
  | crashed crash => rfl
  | _ => exact c.ledger_proceed p now b g slot _

theorem ledger_abandon (c : Call) (b : Address) (g : Gateway) :
    (c.abandon g).1.ledger b = g.ledger b := by
  cases c with
  | submit stage => exact stage.ledger_abandon b g
  | _ => rfl

end Call

namespace System

@[simp] theorem gateway_enroll (s : System) (c : Call) : (s.enroll c).gateway = s.gateway := rfl

@[simp] theorem gateway_enrollChores (s : System) (cs : List Chore) :
    (s.enrollChores cs).1.gateway = s.gateway := by
  induction cs generalizing s with
  | nil => rfl
  | cons c cs ih => exact ih (s.enroll (.chore c))

theorem gateway_abandon (s : System) (i : Nat) :
    (s.abandon i).1.gateway =
      match s.calls.get? i with
      | none => s.gateway
      | some c => (c.abandon s.gateway).1 := by
  cases hget : s.calls.get? i with
  | none => simp only [abandon, hget]
  | some c => simp only [abandon, hget, gateway_enrollChores]

theorem ledger_abandon (s : System) (i : Nat) (b : Address) :
    (s.abandon i).1.gateway.ledger b = s.gateway.ledger b := by
  simp only [abandon]
  split
  · rfl
  · simp [Call.ledger_abandon]

theorem ledger_start (p : Policy) (now : Timestamp) (s : System) (t : Task) (b : Address) :
    (s.start p now t).1.gateway.ledger b = s.gateway.ledger b := by
  have h := Call.ledger_start p now b s.gateway t
  simp only [start]
  split <;> simpa [*] using h

theorem ledger_reply (p : Policy) (now : Timestamp) (s : System) (i slot : Nat) (reply : Reply)
    (b : Address) :
    (s.reply p now i slot reply).1.gateway.ledger b =
      s.gateway.afterTurn now ((s.calls.get? i).bind (·.turn? slot reply)) b := by
  cases hcall : s.calls.get? i with
  | none => simp [System.reply, hcall]
  | some c =>
      have h := c.ledger_resume p now b s.gateway slot reply
      simp only [System.reply, hcall, Option.bind_some]
      split
      · simpa [*] using h
      · simpa [*, ledger_abandon] using h
      · simpa [*] using h

/-- After any moment the ledgers are those before it, but for the turn that the moment gives. -/
theorem ledger_pass (p : Policy) (s : System) (m : Moment) (b : Address) :
    (s.pass p m).gateway.ledger b = s.gateway.afterTurn m.now (s.turn? m) b := by
  obtain ⟨now, what⟩ := m
  cases what with
  | event e =>
      cases e with
      | start t => exact s.ledger_start p now t b
      | reply i slot reply => exact s.ledger_reply p now i slot reply b
      | abandon i => exact s.ledger_abandon i b
  | evict olderThan =>
      simp only [pass, turn?, Gateway.afterTurn_none]
      split
      · exact s.gateway.ledger_evict b ‹_›
      · rfl
  | close => rfl

end System

end TxGateway
