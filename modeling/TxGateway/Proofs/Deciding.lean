import TxGateway.Proofs.CallMoves

/-!
# What a step does to records and to the count of outcomes

A record changes in three ways: a transaction is entered, old records are forgotten, or a poll gets
its answer and takes a status in. Outcomes are counted by polls only, one for each transaction that
they make final.
-/

namespace TxGateway

namespace Registry

open Metrics

variable (r : Registry) (f f' : Family) (l l' : Label) (n : Nat)

theorem value_gauge :
    (r.gauge f l n).value f' l' = if (f', l') = (f, l) then n else r.value f' l' := by
  simp only [value, value?, gauge, Table.get?_set]
  split <;> rfl

theorem value_count :
    (r.count f l).value f' l' = r.value f' l' + if (f', l') = (f, l) then 1 else 0 := by
  rw [count, value_gauge]
  split
  · rename_i h
    cases h
    rfl
  · rfl

end Registry

namespace Gateway

/-- How many transactions have come to an outcome with a name. -/
def outcomes (g : Gateway) (label : String) : Nat := g.metrics.value .outcomes (.status label)

/-- Two gateways with the same watchlist that have counted the same outcomes. -/
structure Still (g t : Gateway) : Prop where
  /-- The same transactions are watched. -/
  watchlist_eq : t.watchlist = g.watchlist
  /-- The same outcomes have been counted. -/
  outcomes_eq : ∀ label, t.outcomes label = g.outcomes label

variable (g : Gateway) {t u : Gateway} (a : Address)

theorem Still.refl : g.Still g := ⟨rfl, fun _ => rfl⟩

variable {g} in
theorem Still.trans (h : g.Still t) (k : t.Still u) : g.Still u :=
  ⟨k.watchlist_eq.trans h.watchlist_eq, fun l => (k.outcomes_eq l).trans (h.outcomes_eq l)⟩

theorem still_setLedger (l : Ledger) : g.Still (g.setLedger a l) := ⟨rfl, fun _ => rfl⟩

/-- Whatever else is counted or measured, outcomes are not. -/
theorem still_measure {f : Registry → Registry}
    (h : ∀ r label, (f r).value .outcomes (.status label) = r.value .outcomes (.status label)) :
    g.Still (g.measure f) :=
  ⟨rfl, fun label => h g.metrics label⟩

theorem outcomes_transactionOutcome (label label' : String) :
    (g.measure (·.transactionOutcome label)).outcomes label' =
      g.outcomes label' + if label = label' then 1 else 0 := by
  simp only [outcomes, measure, Registry.transactionOutcome, Registry.value_count, Prod.mk.injEq,
    Metrics.Label.status.injEq, true_and, eq_comm]

theorem still_ensureLedger : g.Still (g.ensureLedger a) := by
  simp only [ensureLedger]
  split
  · exact .refl g
  · exact g.still_setLedger a {}

theorem still_reconcile (now : Timestamp) (count : Nat) : g.Still (g.reconcile now a count).1 := by
  dsimp only [reconcile]
  refine (g.still_setLedger a _).trans (still_measure _ ?_)
  simp [Registry.nonceReconciled, Registry.value_count, Registry.value_gauge]

theorem still_obtain (choice : NonceChoice) : g.Still (g.obtain a choice).1 := by
  have hallocated : ∀ l : Ledger, g.Still
      ((g.setLedger a l).measure (·.nonceAllocated a l.pending.length)) := by
    intro l
    apply (g.still_setLedger a l).trans
    apply still_measure
    simp [Registry.nonceAllocated, Registry.value_count, Registry.value_gauge]
  simp only [obtain]
  split
  · exact .refl g
  · split
    · exact hallocated _
    · split
      · apply still_measure
        simp [Registry.nonceCollision, Registry.value_count]
      · exact hallocated _

theorem still_giveBack (n : Nat) : g.Still (g.giveBack a n).1 := by
  simp only [giveBack]
  split
  · exact .refl g
  · split
    · exact .refl g
    · dsimp only
      refine (g.still_setLedger a _).trans (still_measure _ ?_)
      simp [Registry.nonceReleased, Registry.value_count, Registry.value_gauge]

theorem still_expire : g.Still (g.expire a) := by
  simp only [expire]
  split
  · exact .refl g
  · exact g.still_setLedger a _

end Gateway

/-- What a step does to the records and to the count of outcomes, and which poll it answers. -/
inductive Alters (g t : Gateway) : Option (TxHash × Watchlist.Observation) → Prop
  /-- Both stay as they are. -/
  | same (still : g.Still t) : Alters g t none
  /-- A transaction is entered. -/
  | enter {r : Record} (entered : g.watchlist.enter r = .ok t.watchlist)
      (outcomes_eq : ∀ label, t.outcomes label = g.outcomes label) : Alters g t none
  /-- Old records are forgotten. -/
  | purge {cutoff : Timestamp} (purged : t.watchlist = g.watchlist.purge cutoff)
      (outcomes_eq : ∀ label, t.outcomes label = g.outcomes label) : Alters g t none
  /-- A poll gets its answer and takes a status in. If it makes the record final, that is
  counted. -/
  | poll {h : TxHash} {now : Timestamp} {status : Status} {o : Watchlist.Observation}
      (polled : g.watchlist.polled? h now status = some (t.watchlist, o))
      (outcomes_eq : ∀ label, t.outcomes label =
        g.outcomes label + if o.changed = true ∧ o.record.status.label = label then 1 else 0) :
      Alters g t (some (h, o))

/-- What a poll tells about its transaction when an answer ends it. -/
def Poll.answer? (p : Policy) (now : Timestamp) (g : Gateway) (c : Poll) (reply : Reply) :
    Option (TxHash × Watchlist.Observation) :=
  match (c.resume p now g reply).2 with
  | .ended (.ok o) => some (c.hash, o)
  | _ => none

/-- The poll by which a poll on behalf of a client asks the chain. -/
def Settle.asking? : Settle → Option Poll
  | polling c => some c
  | _ => none

/-- The poll of a sweep that asks the chain under a number. -/
def Sweep.asking? (s : Sweep) (slot : Nat) : Option Poll := (s.poll? slot).bind Settle.asking?

/-- The poll of a call that asks the chain under a number; one that is alone does so under any. -/
def Call.asking? (c : Call) (slot : Nat) : Option Poll :=
  match c with
  | poll c => some c
  | settle c => c.asking?
  | sweep s => s.asking? slot
  | monitor m => match m.activity with
    | .sweeping s => s.asking? slot
    | _ => none
  | _ => none

/-- What the poll of a call under a number tells when an answer ends it. -/
def Call.answer? (p : Policy) (now : Timestamp) (g : Gateway) (c : Call) (slot : Nat)
    (reply : Reply) : Option (TxHash × Watchlist.Observation) :=
  (c.asking? slot).bind fun q => q.answer? p now g reply

section

variable (p : Policy) (now : Timestamp) (g : Gateway) (reply : Reply)

theorem Poll.alters (c : Poll) :
    Alters g (c.resume p now g reply).1 (c.answer? p now g reply) := by
  have hverdict : ∀ x, c.verdict? p now reply = x →
      Alters g (c.resume p now g reply).1 (c.answer? p now g reply) := by
    intro x hx
    simp only [answer?, resume, hx]
    cases x with
    | none => exact .same (.refl g)
    | some verdict =>
        cases verdict with
        | undecided r => exact .same (.refl g)
        | failed e =>
            apply Alters.same
            apply g.still_measure
            simp [Registry.pollError, Registry.value_count]
        | decided status =>
            simp only [Poll.apply]
            split
            · exact .same (.refl g)
            · rename_i w o hpolled
              have hpolled' : ∀ t : Gateway, t.watchlist = w →
                  g.watchlist.polled? c.hash now status = some (t.watchlist, o) :=
                fun t ht => ht ▸ hpolled
              by_cases hchanged : o.changed = true
              · rw [if_pos hchanged]
                refine .poll (hpolled' _ rfl) fun label => ?_
                rw [Gateway.outcomes_transactionOutcome]
                simp only [hchanged, true_and]
                rfl
              · rw [if_neg hchanged]
                refine .poll (hpolled' _ rfl) fun label => ?_
                rw [if_neg fun h => hchanged h.1]
                rfl
  exact hverdict _ rfl

theorem Settle.alters (c : Settle) :
    Alters g (c.resume p now g reply).1 (c.asking?.bind fun q => q.answer? p now g reply) := by
  cases c with
  | polling q => exact q.alters p now g reply
  | releasing o =>
      cases reply with
      | done => exact .same (g.still_giveBack _ _)
      | _ => exact .same (.refl g)
  | expiring o =>
      cases reply with
      | done => exact .same (g.still_expire _)
      | _ => exact .same (.refl g)
  | saving o => cases reply <;> exact .same (.refl g)

theorem Sweep.alters (s : Sweep) (slot : Nat) :
    Alters g (s.resume p now g slot reply).1
      ((s.asking? slot).bind fun q => q.answer? p now g reply) := by
  cases hpoll : s.poll? slot with
  | none =>
      simp only [resume, asking?, hpoll]
      exact .same (.refl g)
  | some c =>
      have hstep := c.alters p now g reply
      simp only [resume, asking?, hpoll, Option.bind_some]
      split <;> simpa [*] using hstep

theorem Reconcile.still_resume (r : Reconcile) (a : Address) :
    g.Still (r.resume a now g reply).1 := by
  cases r with
  | asking => cases reply <;> exact .refl g
  | applying count =>
      cases reply with
      | done => exact g.still_reconcile a now count
      | _ => exact .refl g

theorem Obtain.still_resume (o : Obtain) (a : Address) (choice : NonceChoice) :
    g.Still (o.resume a choice now g reply).1 := by
  cases o with
  | turn =>
      cases reply with
      | done =>
          have h := g.still_obtain a choice
          simp only [resume]
          split <;> simpa [*] using h
      | _ => exact .refl g
  | seeding r =>
      have h := r.still_resume now g reply a
      simp only [resume]
      split <;> simpa [*] using h

theorem ReconcileAll.still_resume (c : ReconcileAll) : g.Still (c.resume now g reply).1 := by
  have h := c.stage.still_resume now g reply c.account
  simp only [resume]
  split <;> simpa [*] using h

theorem Chore.still_resume (c : Chore) : g.Still (c.resume g reply).1 := by
  cases c with
  | releasing a n =>
      cases reply with
      | done => exact g.still_giveBack a n
      | _ => exact .refl g
  | expiring a =>
      cases reply with
      | done => exact g.still_expire a
      | _ => exact .refl g
  | saving r => cases reply <;> exact .refl g

variable {g} in
theorem Gateway.evict_cases {now : Timestamp} {olderThan : Duration} {t : Gateway} {n : Nat}
    (h : g.evict now olderThan = .ok (t, n)) : Alters g t none := by
  rcases purged_of_evict h with rfl | ⟨cutoff, rfl⟩
  · exact .same (.refl _)
  · exact .purge rfl fun _ => rfl

theorem Sweep.still_start : g.Still (start g).1 := by
  dsimp only [start]
  apply g.still_measure
  simp [Registry.openTransactions, Registry.value_gauge]

theorem Monitor.alters_act (m : Monitor) (slot : Nat) :
    Alters g (m.act p now g slot).1 none := by
  have hacts := m.acts p now g slot
  generalize m.act p now g slot = x at hacts ⊢
  cases hacts with
  | sweeps => exact .same (Sweep.still_start g)
  | forgets evicts => exact Gateway.evict_cases evicts
  | reconciles | breaksOff | waits => exact .same (.refl g)

theorem Monitor.alters (m : Monitor) (slot : Nat) :
    Alters g (m.resume p now g slot reply).1
      (((Call.monitor m).asking? slot).bind fun q => q.answer? p now g reply) := by
  obtain ⟨refresh, reconcile, cleanup, activity⟩ := m
  cases activity with
  | idle =>
      cases reply with
      | done => exact alters_act p now g _ slot
      | _ => exact .same (.refl g)
  | sweeping s => exact s.alters p now g reply slot
  | reconciling r => exact .same (r.still_resume now g reply)

/-- Beginning to watch a transaction enters it, or changes nothing. -/
theorem Gateway.alters_watch (r : Record) : Alters g (g.watch r).1 none := by
  simp only [watch]
  split
  · exact .enter ‹_› fun _ => rfl
  · apply Alters.same
    apply g.still_measure
    simp [Registry.violationFound, Registry.value_count]

variable {g} in
theorem Gateway.alters_of_watch {r : Record} {t : Gateway} {x : Except Failure Unit}
    (h : g.watch r = (t, x)) : Alters g t none := by
  have halters := g.alters_watch r
  rwa [h] at halters

theorem Submit.alters (c : Submit) : Alters g (c.resume p now g reply).1 none := by
  obtain ⟨request, stage⟩ := c
  have hensure := g.still_ensureLedger request.account
  cases stage with
  | aging =>
      cases reply with
      | done =>
          simp only [resume]
          split
          · exact .same (.refl g)
          · exact .same hensure
      | _ => exact .same (.refl g)
  | refreshing r =>
      have h := r.still_resume now g reply request.account
      simp only [resume]
      split <;> exact .same (by simpa [*, fail] using h)
  | noting => cases reply <;> first | exact .same hensure | exact .same (.refl g)
  | obtaining o =>
      have h := o.still_resume now g reply request.account request.choice
      simp only [resume]
      split <;> exact .same (by simpa [*, fail] using h)
  | pricing n =>
      cases reply with
      | price price =>
          simp only [resume]
          split <;> exact .same (.refl g)
      | _ => exact .same (.refl g)
  | signing n price =>
      cases reply with
      | signed raw => exact .same ⟨rfl, fun _ => rfl⟩
      | _ => exact .same (.refl g)
  | broadcasting sent raw =>
      cases reply with
      | accepted hash =>
          simp only [resume, accept]
          split <;> exact Gateway.alters_of_watch ‹_›
      | unreachable detail =>
          simp only [resume, hold]
          split <;> exact Gateway.alters_of_watch ‹_›
      | silence =>
          simp only [resume, hold]
          split <;> exact Gateway.alters_of_watch ‹_›
      | _ => exact .same (.refl g)
  | returning n e =>
      cases reply with
      | done =>
          have hback := g.still_giveBack request.account n
          simp only [resume, fail]
          split
          · refine .same (hback.trans ?_)
            apply Gateway.still_measure
            simp [Registry.submissionRejected, Registry.value_count]
          · exact .same hback
      | _ => exact .same (.refl g)
  | holding r e => cases reply <;> exact .same (.refl g)
  | saving submission r =>
      have hsubmitted : g.Still (g.measure (·.transactionSubmitted)) := by
        apply g.still_measure
        simp [Registry.transactionSubmitted, Registry.value_count]
      cases reply <;> first | exact .same hsubmitted | exact .same (.refl g)

theorem Submit.alters_abandon (c : Submit) : Alters g (c.abandon g).1 none := by
  simp only [abandon]
  split
  · exact .same (.refl g)
  · exact .same (.refl g)
  · split <;> exact Gateway.alters_of_watch ‹_›
  · exact .same (.refl g)

end

theorem Submit.gateway_of_crashed {p : Policy} {now : Timestamp} {g g' : Gateway} {c : Submit}
    {reply : Reply} {e : Crash} (h : c.resume p now g reply = (g', .ended (.crashed e))) :
    g' = g := by
  obtain ⟨request, stage⟩ := c
  simp only [resume, toObtain, fail, returnNonce, send, accept, hold] at h
  split at h
  all_goals first
    | cases h
    | (split at h <;> cases h <;> rfl)

namespace Call

variable (p : Policy) (now : Timestamp) (g : Gateway)

/-- Whether a call takes stored records in. -/
def IsRecovery : Call → Prop
  | recover _ => True
  | _ => False

theorem alters_start (t : Task) : Alters g (start p now g t).1 none := by
  cases t with
  | obtain a choice => exact .same (g.still_ensureLedger a)
  | giveBack a n =>
      simp only [start]
      split <;> exact .same (.refl g)
  | expire a =>
      simp only [start]
      split <;> exact .same (.refl g)
  | sweep => exact .same (Sweep.still_start g)
  | _ => exact .same (.refl g)

theorem alters_proceed {c : Call} (hc : ¬ c.IsRecovery) (slot : Nat) (reply : Reply) :
    Alters g (c.proceed p now g slot reply).1 (c.answer? p now g slot reply) := by
  cases c with
  | reconcile a r => exact .same (r.still_resume now g reply a)
  | obtain a choice o => exact .same (o.still_resume now g reply a choice)
  | giveBack a n => exact .same (g.still_giveBack a n)
  | expire a => exact .same (g.still_expire a)
  | currentNonce a stage => exact .same (.refl g)
  | poll c => exact c.alters p now g reply
  | settle c => exact c.alters p now g reply
  | submit c => exact c.alters p now g reply
  | recover c => exact absurd trivial hc
  | reconcileAll c => exact .same (c.still_resume now g reply)
  | sweep s => exact s.alters p now g reply slot
  | monitor m => exact m.alters p now g reply slot
  | chore c => exact .same (c.still_resume g reply)
  | storeHealth => exact .same (.refl g)
  | readiness store =>
      cases store with
      | none => exact .same (.refl g)
      | some ok =>
          dsimp only [proceed]
          refine .same (g.still_measure fun r label => ?_)
          simp only [Registry.healthChecked]
          split <;> simp [Registry.value_count]

/-- A poll is not ended by a chain that breaks off. -/
theorem answer?_crashed (c : Call) (slot : Nat) (crash : Crash) :
    c.answer? p now g slot (.crashed crash) = none := by
  rw [answer?, Option.bind_eq_none_iff]
  intro q _
  rfl

theorem alters_resume {c : Call} (hc : ¬ c.IsRecovery) (slot : Nat) (reply : Reply) :
    Alters g (c.resume p now g slot reply).1 (c.answer? p now g slot reply) := by
  cases reply with
  | crashed crash =>
      rw [answer?_crashed]
      exact .same (.refl g)
  | _ => exact alters_proceed p now g hc slot _

theorem alters_abandon (c : Call) : Alters g (c.abandon g).1 none := by
  cases c with
  | submit c => exact c.alters_abandon g
  | _ => exact .same (.refl g)

section

variable {p : Policy} {now : Timestamp} {g g' : Gateway} {c d : Call} {slot : Nat} {reply : Reply}

/-- A call that breaks off and is dropped changes records and outcomes in no other way. -/
theorem alters_of_crashed {e : Crash} (hc : ¬ c.IsRecovery)
    (h : c.resume p now g slot reply = (g', .ended (.crashed e))) :
    Alters g (c.abandon g').1 (c.answer? p now g slot reply) := by
  have halters := c.alters_resume p now g hc slot reply
  rw [h] at halters
  cases c with
  | submit c =>
      have hsame : g' = g := by
        cases reply with
        | crashed crash => exact (congrArg Prod.fst h).symm
        | _ =>
            simp only [resume, proceed] at h
            cases hx : c.resume p now g _ with
            | mk g₁ x =>
                rw [hx] at h
                cases x with
                | waiting c' => cases h
                | ended ending =>
                    cases ending with
                    | returned result => cases h
                    | crashed e' =>
                        cases h
                        exact Submit.gateway_of_crashed hx
      rw [hsame]
      exact alters_abandon g _
  | _ => exact halters

theorem isRecovery_of_start {t : Task} (h : (start p now g t).2 = .waiting d)
    (hd : d.IsRecovery) : ∃ held, t = .recover held := by
  cases d with
  | recover stage =>
      cases t with
      | recover held => exact ⟨held, rfl⟩
      | giveBack a n =>
          simp only [start] at h
          split at h <;> cases h
      | expire a =>
          simp only [start] at h
          split at h <;> cases h
      | poll k => cases (Progress.of_map_eq_waiting h).choose_spec
      | settle k => cases (Progress.of_map_eq_waiting h).choose_spec
      | reconcileAll => cases (Progress.of_map_eq_waiting h).choose_spec
      | sweep => cases (Progress.of_map_eq_waiting h).choose_spec
      | monitor => cases (Progress.of_map_eq_waiting h).choose_spec
      | _ => cases h
  | _ => exact hd.elim

theorem isRecovery_of_resume (h : (c.resume p now g slot reply).2 = .waiting d)
    (hd : d.IsRecovery) : c.IsRecovery := by
  have hproceed : (c.proceed p now g slot reply).2 = .waiting d → c.IsRecovery := by
    intro h
    cases d with
    | recover stage =>
        cases c with
        | recover before => trivial
        | giveBack a n => cases h
        | expire a => cases h
        | storeHealth => cases h
        | readiness store => cases store <;> cases h
        | _ => cases (Progress.of_map_eq_waiting h).choose_spec
    | _ => exact hd.elim
  cases reply with
  | crashed crash =>
      simp only [resume] at h
      split at h <;> cases h
      exact hd
  | _ => exact hproceed h

end

end Call

end TxGateway
