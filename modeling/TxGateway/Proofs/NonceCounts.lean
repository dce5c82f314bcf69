import TxGateway.Proofs.Deciding
import TxGateway.Proofs.NoReuse

/-!
# What the metrics tell about nonces

The metrics count the nonces of an account that are handed out and given back, and measure how many
are pending. They are written at turns at the ledger only: a turn that hands a nonce out, takes one
back or takes a confirmed count in writes them together with the ledger, and every other one leaves
both alone. So the two never drift apart.
-/

namespace TxGateway

open Metrics

/-- What the metrics tell about the nonces of an account. -/
@[ext] structure NonceCounts where
  /-- How many have been handed out. -/
  allocated : Nat
  /-- How many have been given back. -/
  released : Nat
  /-- How many are pending, once that has been measured. -/
  measured : Option Nat
  deriving DecidableEq, Repr

namespace Registry

variable (r : Registry) (a : Address)

/-- What a registry tells about the nonces of an account. -/
def nonceCounts : NonceCounts where
  allocated := r.value .noncesAllocated (.account a)
  released := r.value .noncesReleased (.account a)
  measured := r.value? .pendingNonces (.account a)

theorem value?_gauge (f f' : Family) (l l' : Label) (n : Nat) :
    (r.gauge f l n).value? f' l' = if (f', l') = (f, l) then some n else r.value? f' l' := by
  simp only [value?, gauge, Table.get?_set]

/-- Other families tell nothing about nonces. -/
theorem nonceCounts_gauge {f : Family} (l : Label) (n : Nat)
    (hf : f ∉ [.noncesAllocated, .noncesReleased, .pendingNonces]) :
    (r.gauge f l n).nonceCounts a = r.nonceCounts a := by
  simp only [List.mem_cons, List.not_mem_nil, or_false, not_or] at hf
  ext1 <;> simp [nonceCounts, value_gauge, value?_gauge, Ne.symm hf.1, Ne.symm hf.2.1,
    Ne.symm hf.2.2]

theorem nonceCounts_count {f : Family} (l : Label)
    (hf : f ∉ [.noncesAllocated, .noncesReleased, .pendingNonces]) :
    (r.count f l).nonceCounts a = r.nonceCounts a :=
  r.nonceCounts_gauge a l _ hf

end Registry

/-- What is told after an event of a family at the ledger of an account, with so many nonces pending
afterwards. -/
def NonceCounts.note (c : NonceCounts) (f : Family) (pending : Nat) : NonceCounts where
  allocated := c.allocated + if f = .noncesAllocated then 1 else 0
  released := c.released + if f = .noncesReleased then 1 else 0
  measured := some pending

/-- The event is told of its account only. -/
theorem Registry.nonceCounts_note (r : Registry) (a b : Address) {f : Family} (n : Nat)
    (hf : f ≠ .pendingNonces) :
    ((r.count f (.account a)).gauge .pendingNonces (.account a) n).nonceCounts b =
      if b = a then (r.nonceCounts a).note f n else r.nonceCounts b := by
  by_cases hb : b = a
  · subst hb
    ext1 <;> simp [nonceCounts, NonceCounts.note, value_gauge, value_count, value?_gauge, eq_comm]
  · ext1 <;> simp [nonceCounts, value_gauge, value?_gauge, count, hb, Ne.symm hf]

/-- Whether a ledger gives the nonce that it is asked for. -/
def Ledger.Grants (l : Ledger) : NonceChoice → Prop
  | .next => l.seeded = true
  | .named n => l.seeded = true ∧ l.confirmed ≤ n ∧ n ∉ l.pending

instance (l : Ledger) (choice : NonceChoice) : Decidable (l.Grants choice) :=
  match choice with
  | .next => inferInstanceAs (Decidable (l.seeded = true))
  | .named n => inferInstanceAs (Decidable (l.seeded = true ∧ l.confirmed ≤ n ∧ n ∉ l.pending))

namespace Ledger

variable {l : Ledger} {n : Nat}

theorem claim_of_grants (h : l.Grants (.named n)) : l.claim n = .ok (l.issue n) := by
  have hfree : l.book.floor ≤ n ∧ n ∉ l.book.held := by simpa using h.2
  rw [claim_eq, if_pos hfree]

theorem claim_of_not_grants (hs : l.seeded = true) (h : ¬ l.Grants (.named n)) :
    l.claim n = .error (l.book.refusal n) := by
  rw [claim_eq, if_neg]
  rw [floor_book, mem_book]
  exact fun hfree => h ⟨hs, hfree⟩

end Ledger

namespace Turn

/-- The family in which a turn at a ledger counts as an event, if it does. -/
def counted? (l : Ledger) : Turn → Option Family
  | confirm _ => some .nonceReconciliations
  | obtain choice => if l.Grants choice then some .noncesAllocated else none
  | giveBack n => if n ∈ l.pending then some .noncesReleased else none
  | expire => none

/-- What is told about the account of a ledger after a turn at it. -/
def recount (now : Timestamp) (l : Ledger) (c : NonceCounts) (t : Turn) : NonceCounts :=
  match t.counted? l with
  | some f => c.note f (t.apply now l).pending.length
  | none => c

/-- Nothing is told of a request that is not granted. -/
theorem recount_of_not_grants (now : Timestamp) {l : Ledger} {choice : NonceChoice}
    (c : NonceCounts) (h : ¬ l.Grants choice) : recount now l c (.obtain choice) = c := by
  simp only [recount, counted?, if_neg h]

theorem recount_of_grants (now : Timestamp) {l : Ledger} {choice : NonceChoice} (c : NonceCounts)
    (h : l.Grants choice) : recount now l c (.obtain choice) =
      c.note .noncesAllocated (apply now l (.obtain choice)).pending.length := by
  simp only [recount, counted?, if_pos h]

end Turn

namespace Gateway

/-- What the metrics of a gateway tell about the nonces of an account. -/
def counts (g : Gateway) (a : Address) : NonceCounts := g.metrics.nonceCounts a

/-- What is told about an account after a turn at a ledger, or after none. -/
def countsAfter (g : Gateway) (now : Timestamp) (t : Option (Address × Turn)) (b : Address) :
    NonceCounts :=
  match t with
  | none => g.counts b
  | some (a, t) => if b = a then t.recount now (g.ledger a) (g.counts a) else g.counts b

section

variable (g : Gateway) (now : Timestamp) (a b : Address)

@[simp] theorem countsAfter_none : g.countsAfter now none b = g.counts b := rfl

@[simp] theorem countsAfter_some (t : Turn) : g.countsAfter now (some (a, t)) b =
    if b = a then t.recount now (g.ledger a) (g.counts a) else g.counts b := rfl

@[simp] theorem counts_setLedger (l : Ledger) : (g.setLedger a l).counts b = g.counts b := rfl

@[simp] theorem counts_ensureLedger : (g.ensureLedger a).counts b = g.counts b := by
  simp only [ensureLedger]
  split <;> rfl

/-- What is noted in other families tells nothing about nonces. -/
theorem counts_measure_count {f : Family} (l : Label)
    (hf : f ∉ [.noncesAllocated, .noncesReleased, .pendingNonces]) :
    (g.measure (·.count f l)).counts b = g.counts b :=
  g.metrics.nonceCounts_count b l hf

/-- An event of a family at the ledger of an account is noted together with the ledger. -/
theorem counts_note {f : Family} (hf : f ≠ .pendingNonces) (l : Ledger) :
    ((g.setLedger a l).measure fun r =>
        (r.count f (.account a)).gauge .pendingNonces (.account a) l.pending.length).counts b =
      if b = a then (g.counts a).note f l.pending.length else g.counts b :=
  g.metrics.nonceCounts_note a b _ hf

theorem counts_reconcile (count : Nat) :
    (g.reconcile now a count).1.counts b = g.countsAfter now (some (a, .confirm count)) b :=
  g.counts_note a b (by decide) ((g.ledger a).confirm now count)

theorem counts_obtain (choice : NonceChoice) :
    (g.obtain a choice).1.counts b = g.countsAfter now (some (a, .obtain choice)) b := by
  rw [countsAfter_some]
  by_cases hs : (g.ledger a).seeded = true
  · cases choice with
    | next =>
        have hgrants : (g.ledger a).Grants .next := hs
        have h := g.counts_note a b (f := .noncesAllocated) (by decide) (g.ledger a).handOut.2
        rw [Turn.recount_of_grants _ _ hgrants]
        simpa [obtain, Turn.apply, Registry.nonceAllocated, hs] using h
    | named n =>
        by_cases hgrants : (g.ledger a).Grants (.named n)
        · have hclaim := Ledger.claim_of_grants hgrants
          have h := g.counts_note a b (f := .noncesAllocated) (by decide) ((g.ledger a).issue n)
          rw [Turn.recount_of_grants _ _ hgrants]
          simpa [obtain, Turn.apply, Registry.nonceAllocated, hs, hclaim] using h
        · have hclaim := Ledger.claim_of_not_grants hs hgrants
          have h := g.counts_measure_count b (f := .nonceCollisions) .whole (by decide)
          rw [Turn.recount_of_not_grants _ _ hgrants]
          simp only [obtain, hs, hclaim, Bool.not_true, Bool.false_eq_true, if_false]
          refine Eq.trans h ?_
          split <;> simp [*]
  · have hgrants : ¬ (g.ledger a).Grants choice := by
      cases choice with
      | next => exact hs
      | named n => exact fun h => hs h.1
    rw [Turn.recount_of_not_grants _ _ hgrants]
    by_cases hb : b = a <;> simp [obtain, hs, hb]

theorem counts_giveBack (n : Nat) :
    (g.giveBack a n).1.counts b = g.countsAfter now (some (a, .giveBack n)) b := by
  rw [countsAfter_some]
  cases hget : g.ledgers.get? a with
  | none =>
      have hempty : g.ledger a = {} := by simp [ledger, hget]
      by_cases hb : b = a <;> simp [giveBack, hget, hempty, Turn.recount, Turn.counted?, hb]
  | some l =>
      rw [g.ledger_of_get? a hget]
      by_cases hn : n ∈ l.pending
      · have h := g.counts_note a b (f := .noncesReleased) (by decide)
          ((l.giveBack? n).getD l)
        simpa [giveBack, hget, Ledger.giveBack?, Turn.recount, Turn.counted?, Turn.apply,
          Registry.nonceReleased, hn] using h
      · by_cases hb : b = a <;>
          simp [giveBack, hget, Ledger.giveBack?, Turn.recount, Turn.counted?, hn, hb]

theorem counts_expire :
    (g.expire a).counts b = g.countsAfter now (some (a, .expire)) b := by
  rw [countsAfter_some]
  have h : (g.expire a).counts b = g.counts b := by
    simp only [expire]
    split <;> rfl
  rw [h]
  split
  · rename_i hb
    rw [hb]
    rfl
  · rfl

@[simp] theorem counts_watch (r : Record) : (g.watch r).1.counts b = g.counts b := by
  simp only [watch]
  split
  · rfl
  · exact g.counts_measure_count b .whole (by decide)

theorem counts_of_watch {r : Record} {t : Gateway} {x : Except Failure Unit}
    (h : g.watch r = (t, x)) : t.counts b = g.counts b := by
  rw [← g.counts_watch b r, h]

theorem counts_evict {olderThan : Duration} {t : Gateway} {n : Nat}
    (h : g.evict now olderThan = .ok (t, n)) : t.counts b = g.counts b := by
  rcases purged_of_evict h with rfl | ⟨cutoff, rfl⟩ <;> rfl

end

end Gateway

section

variable (now : Timestamp) (g : Gateway) (b : Address) (reply : Reply)

theorem Reconcile.counts_resume (r : Reconcile) (a : Address) :
    (r.resume a now g reply).1.counts b = g.countsAfter now ((r.turn? reply).map (a, ·)) b := by
  cases r with
  | asking => cases reply <;> rfl
  | applying count =>
      cases reply with
      | done => exact g.counts_reconcile now a b count
      | _ => rfl

theorem Obtain.counts_resume (o : Obtain) (a : Address) (choice : NonceChoice) :
    (o.resume a choice now g reply).1.counts b =
      g.countsAfter now ((o.turn? choice reply).map (a, ·)) b := by
  cases o with
  | turn =>
      cases reply with
      | done =>
          have h := g.counts_obtain now a b choice
          simp only [resume, turn?, Option.map_some]
          split <;> simpa [*] using h
      | _ => rfl
  | seeding r =>
      have h := r.counts_resume now g b reply a
      simp only [resume, turn?]
      split <;> simpa [*] using h

theorem Chore.counts_resume (c : Chore) :
    (c.resume g reply).1.counts b = g.countsAfter now (c.turn? reply) b := by
  cases c with
  | releasing a n =>
      cases reply with
      | done => exact g.counts_giveBack now a b n
      | _ => rfl
  | expiring a =>
      cases reply with
      | done => exact g.counts_expire now a b
      | _ => rfl
  | saving r => cases reply <;> rfl

theorem Submit.counts_resume (c : Submit) (p : Policy) :
    (c.resume p now g reply).1.counts b = g.countsAfter now (c.turn? reply) b := by
  obtain ⟨request, stage⟩ := c
  cases stage with
  | refreshing r =>
      have h := r.counts_resume now g b reply request.account
      simp only [resume, turn?]
      split <;> simpa [*, fail] using h
  | obtaining o =>
      have h := o.counts_resume now g b reply request.account request.choice
      simp only [resume, turn?]
      split <;> simpa [*, fail] using h
  | returning n e =>
      cases reply with
      | done =>
          have h := g.counts_giveBack now request.account b n
          simp only [resume, turn?, fail]
          split
          · exact ((g.giveBack request.account n).1.counts_measure_count b .whole
              (by decide)).trans h
          · exact h
      | _ => rfl
  | aging =>
      cases reply with
      | done =>
          simp only [resume, turn?, Gateway.countsAfter_none]
          split <;> simp [toObtain, Obtain.start]
      | _ => rfl
  | noting => cases reply <;> simp [resume, turn?, toObtain, Obtain.start]
  | pricing n =>
      cases reply with
      | price price =>
          simp only [resume, turn?, Gateway.countsAfter_none]
          split <;> rfl
      | _ => rfl
  | signing n price => cases reply <;> rfl
  | broadcasting record raw =>
      cases reply with
      | accepted hash =>
          simp only [resume, accept]
          split <;> exact g.counts_of_watch b ‹_›
      | unreachable detail =>
          simp only [resume, hold]
          split <;> exact g.counts_of_watch b ‹_›
      | silence =>
          simp only [resume, hold]
          split <;> exact g.counts_of_watch b ‹_›
      | _ => rfl
  | holding record e => cases reply <;> rfl
  | saving submission record =>
      have hsubmitted : (g.measure (·.transactionSubmitted)).counts b = g.counts b :=
        g.counts_measure_count b .whole (by decide)
      cases reply <;> first | exact hsubmitted | rfl

theorem Submit.counts_abandon (c : Submit) : (c.abandon g).1.counts b = g.counts b := by
  simp only [abandon]
  split
  · rfl
  · rfl
  · split <;> exact g.counts_of_watch b ‹_›
  · rfl

theorem Poll.counts_resume (c : Poll) (p : Policy) :
    (c.resume p now g reply).1.counts b = g.counts b := by
  simp only [resume]
  split
  · rfl
  · rfl
  · exact g.counts_measure_count b .whole (by decide)
  · simp only [Poll.apply]
    split
    · rfl
    · split
      · exact Gateway.counts_measure_count _ b _ (by decide)
      · rfl

theorem Settle.counts_resume (c : Settle) (p : Policy) :
    (c.resume p now g reply).1.counts b = g.countsAfter now (c.turn? reply) b := by
  cases c with
  | polling poll => exact poll.counts_resume now g b reply p
  | releasing o =>
      cases reply with
      | done => exact g.counts_giveBack now _ b _
      | _ => rfl
  | expiring o =>
      cases reply with
      | done => exact g.counts_expire now _ b
      | _ => rfl
  | saving o => cases reply <;> rfl

theorem Sweep.counts_start : (start g).1.counts b = g.counts b :=
  g.metrics.nonceCounts_gauge b .whole _ (by decide)

theorem Sweep.counts_resume (s : Sweep) (p : Policy) (slot : Nat) :
    (s.resume p now g slot reply).1.counts b = g.countsAfter now (s.turn? slot reply) b := by
  cases hpoll : s.poll? slot with
  | none => simp [resume, turn?, hpoll]
  | some poll =>
      have h := poll.counts_resume now g b reply p
      simp only [resume, turn?, hpoll, Option.bind_some]
      split <;> simpa [*] using h

theorem ReconcileAll.counts_resume (c : ReconcileAll) :
    (c.resume now g reply).1.counts b = g.countsAfter now (c.turn? reply) b := by
  have h := c.stage.counts_resume now g b reply c.account
  simp only [resume, turn?]
  split <;> simpa [*] using h

theorem Monitor.counts_act (m : Monitor) (p : Policy) (slot : Nat) :
    (m.act p now g slot).1.counts b = g.counts b := by
  have hacts := m.acts p now g slot
  generalize m.act p now g slot = x at hacts ⊢
  cases hacts with
  | sweeps => exact Sweep.counts_start g b
  | forgets evicts => exact g.counts_evict now b evicts
  | reconciles | breaksOff | waits => rfl

theorem Monitor.counts_resume (m : Monitor) (p : Policy) (slot : Nat) :
    (m.resume p now g slot reply).1.counts b = g.countsAfter now (m.turn? slot reply) b := by
  obtain ⟨refresh, reconcile, cleanup, activity⟩ := m
  cases activity with
  | idle =>
      cases reply with
      | done => exact counts_act now g b _ p slot
      | _ => rfl
  | sweeping s => exact s.counts_resume now g b reply p slot
  | reconciling r => exact r.counts_resume now g b reply

theorem Recover.counts_takeIn (total : Nat) (rs : List Record) :
    (takeIn total g rs).1.counts b = g.counts b := by
  induction rs generalizing g with
  | nil => rfl
  | cons r rs ih =>
      simp only [takeIn]
      split
      · simp only [Obtain.start, Gateway.counts_ensureLedger]
        rfl
      · exact ih (g.restore r)

theorem Recover.counts_resume (c : Recover) :
    (c.resume now g reply).1.counts b = g.countsAfter now (c.turn? reply) b := by
  cases c with
  | listing held => cases reply <;> rfl
  | reconciling a r rest =>
      have h := r.counts_resume now g b reply a
      simp only [resume, turn?]
      split <;> simpa [*] using h
  | loading =>
      cases reply with
      | records rs => exact counts_takeIn g b rs.length rs
      | _ => rfl
  | claiming record o rest total =>
      have h := o.counts_resume now g b reply record.account (.named record.nonce)
      simp only [resume, turn?]
      split <;> simpa [*, counts_takeIn] using h

namespace Call

variable (p : Policy)

theorem counts_start (t : Task) : (start p now g t).1.counts b = g.counts b := by
  cases t with
  | obtain a choice => exact g.counts_ensureLedger a b
  | giveBack a n =>
      simp only [start]
      split <;> rfl
  | expire a =>
      simp only [start]
      split <;> rfl
  | sweep => exact Sweep.counts_start g b
  | _ => rfl

theorem counts_proceed (c : Call) (slot : Nat) :
    (c.proceed p now g slot reply).1.counts b = g.countsAfter now (c.turnOf? slot reply) b := by
  cases c with
  | reconcile a stage => exact stage.counts_resume now g b reply a
  | obtain a choice stage => exact stage.counts_resume now g b reply a choice
  | giveBack a n => exact g.counts_giveBack now a b n
  | expire a => exact g.counts_expire now a b
  | currentNonce a stage => rfl
  | poll stage => exact stage.counts_resume now g b reply p
  | settle stage => exact stage.counts_resume now g b reply p
  | submit stage => exact stage.counts_resume now g b reply p
  | recover stage => exact stage.counts_resume now g b reply
  | reconcileAll stage => exact stage.counts_resume now g b reply
  | sweep stage => exact stage.counts_resume now g b reply p slot
  | monitor stage => exact stage.counts_resume now g b reply p slot
  | chore stage => exact stage.counts_resume now g b reply
  | storeHealth => rfl
  | readiness store =>
      cases store with
      | none => rfl
      | some ok =>
          simp only [proceed, turnOf?, Gateway.countsAfter_none, Registry.healthChecked]
          exact g.counts_measure_count b .whole (by split <;> decide)

theorem counts_resume (c : Call) (slot : Nat) :
    (c.resume p now g slot reply).1.counts b = g.countsAfter now (c.turn? slot reply) b := by
  cases reply with
  | crashed crash => rfl
  | _ => exact c.counts_proceed now g b _ p slot

theorem counts_abandon (c : Call) : (c.abandon g).1.counts b = g.counts b := by
  cases c with
  | submit stage => exact stage.counts_abandon g b
  | _ => rfl

end Call

end

namespace System

theorem counts_abandon (s : System) (i : Nat) (b : Address) :
    (s.abandon i).1.gateway.counts b = s.gateway.counts b := by
  rw [gateway_abandon]
  split
  · rfl
  · rename_i c _
    exact c.counts_abandon s.gateway b

/-- After any moment the metrics tell of every account what they told before it, but for the turn
that the moment gives. -/
theorem counts_pass (p : Policy) (s : System) (m : Moment) (b : Address) :
    (s.pass p m).gateway.counts b = s.gateway.countsAfter m.now (s.turn? m) b := by
  obtain ⟨now, what⟩ := m
  cases what with
  | event e =>
      cases e with
      | start t =>
          have h := Call.counts_start now s.gateway b p t
          simp only [pass, step, turn?, Gateway.countsAfter_none, start]
          split <;> simpa [*] using h
      | reply i slot reply =>
          simp only [pass, step, turn?]
          cases hcall : s.calls.get? i with
          | none => simp [System.reply, hcall]
          | some c =>
              have h := c.counts_resume now s.gateway b reply p slot
              simp only [System.reply, hcall, Option.bind_some]
              split
              · simpa [*] using h
              · simpa [*, counts_abandon] using h
              · simpa [*] using h
      | abandon i => exact s.counts_abandon i b
  | evict olderThan =>
      simp only [pass, turn?, Gateway.countsAfter_none]
      split
      · exact s.gateway.counts_evict now b ‹_›
      · rfl
  | close => rfl

end System

end TxGateway
