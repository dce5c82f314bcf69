import TxGateway.Proofs.Stages

/-!
# Readings of the chain

A call that brings a ledger up to date asks the chain, waits for the answer, waits for a turn at the
ledger, and takes the count in. So every count that is taken in at some moment of a run belongs to a
question that the same call has asked at an earlier one.
-/

namespace TxGateway

/-- How far getting a nonce is with bringing the ledger up to date. -/
def Obtain.reading? : Obtain → Option Reconcile
  | turn => none
  | seeding r => some r

/-- How far a submission is with bringing the ledger up to date. -/
def Submit.reading? (c : Submit) : Option (Address × Reconcile) :=
  match c.stage with
  | .refreshing r => some (c.request.account, r)
  | .obtaining o => o.reading?.map (c.request.account, ·)
  | _ => none

/-- How far a recovery is with bringing a ledger up to date. -/
def Recover.reading? : Recover → Option (Address × Reconcile)
  | reconciling a r _ => some (a, r)
  | claiming record o _ _ => o.reading?.map (record.account, ·)
  | _ => none

/-- How far the monitor is with bringing a ledger up to date. -/
def Monitor.reading? (m : Monitor) : Option (Address × Reconcile) :=
  match m.activity with
  | .reconciling c => some (c.account, c.stage)
  | _ => none

/-- The account whose ledger a call is bringing up to date, and how far it is. -/
def Call.reading? : Call → Option (Address × Reconcile)
  | reconcile a r => some (a, r)
  | obtain a _ o => o.reading?.map (a, ·)
  | submit c => c.reading?
  | recover c => c.reading?
  | reconcileAll c => some (c.account, c.stage)
  | monitor m => m.reading?
  | _ => none

section

variable {a : Address} {n : Nat} {p : Policy} {now : Timestamp} {g : Gateway} {reply : Reply}

/-- A count waits for a turn after it has waited before, or when it is the answer of the chain. -/
theorem Reconcile.applying_of_resume {r : Reconcile}
    (h : (r.resume a now g reply).2 = .waiting (.applying n)) :
    r = .applying n ∨ r = .asking ∧ reply = .count n := by
  cases r with
  | asking => cases reply <;> simp_all [resume]
  | applying count => cases reply <;> simp_all [resume]

theorem Obtain.applying_of_resume {o o' : Obtain} {choice : NonceChoice}
    (h : (o.resume a choice now g reply).2 = .waiting o') (ho : o'.reading? = some (.applying n)) :
    o.reading? = some (.applying n) ∨ o.reading? = some .asking ∧ reply = .count n := by
  cases o with
  | turn =>
      cases reply with
      | done =>
          simp only [resume] at h
          split at h
          · cases h
          · cases h
            cases ho
      | _ =>
          cases h
          cases ho
  | seeding r =>
      simp only [resume] at h
      split at h
      · rename_i hstep
        cases h
        cases ho
        simpa [reading?] using Reconcile.applying_of_resume (congrArg Prod.snd hstep)
      · cases h
        cases ho
      · cases h

theorem ReconcileAll.applying_of_resume {c c' : ReconcileAll}
    (h : (c.resume now g reply).2 = .waiting c') (hc : (c'.account, c'.stage) = (a, .applying n)) :
    (c.account, c.stage) = (a, .applying n) ∨ (c.account, c.stage) = (a, .asking) ∧
      reply = .count n := by
  simp only [resume] at h
  split at h
  · rename_i hstep
    cases h
    cases hc
    simpa using Reconcile.applying_of_resume (congrArg Prod.snd hstep)
  · cases hrest : c.rest with
    | nil =>
        rw [hrest] at h
        cases h
    | cons b rest =>
        rw [hrest] at h
        cases h
        cases hc

theorem Submit.applying_of_resume {c d : Submit} (h : (c.resume p now g reply).2 = .waiting d)
    (hd : d.reading? = some (a, .applying n)) :
    c.reading? = some (a, .applying n) ∨ c.reading? = some (a, .asking) ∧ reply = .count n := by
  obtain ⟨request, stage⟩ := c
  cases stage with
  | aging =>
      cases reply with
      | done =>
          simp only [resume] at h
          split at h
          · cases h
            cases hd
          · cases h
            cases hd
      | _ =>
          cases h
          cases hd
  | refreshing r =>
      simp only [resume] at h
      split at h
      · rename_i hstep
        cases h
        cases hd
        simpa [reading?] using Reconcile.applying_of_resume (congrArg Prod.snd hstep)
      · cases h
        cases hd
      · cases h
  | noting =>
      cases reply <;>
      · cases h
        cases hd
  | obtaining o =>
      simp only [resume] at h
      split at h
      · rename_i o' hstep
        cases h
        obtain ⟨r, ho', heq⟩ := Option.map_eq_some_iff.mp hd
        cases heq
        simpa [reading?] using Obtain.applying_of_resume (congrArg Prod.snd hstep) ho'
      · cases h
        cases hd
      · cases h
  | _ =>
      -- A submission that has its nonce reads no more.
      have hrank := Submit.rank_resume h
      obtain ⟨request', stage'⟩ := d
      cases stage' with
      | refreshing r => exact absurd hrank (by simp [Stage.rank])
      | obtaining o => exact absurd hrank (by simp [Stage.rank])
      | _ => cases hd

theorem Recover.not_applying_nextAccount (as : List Address) :
    (nextAccount as).reading? ≠ some (a, .applying n) := by
  cases as <;> simp [nextAccount, reading?]

theorem Recover.not_applying_takeIn (total : Nat) (rs : List Record) (g : Gateway) {c : Recover}
    (h : (takeIn total g rs).2 = .waiting c) : c.reading? ≠ some (a, .applying n) := by
  induction rs generalizing g with
  | nil => cases h
  | cons r rs ih =>
      simp only [takeIn] at h
      split at h
      · cases h
        simp [reading?, Obtain.start, Obtain.reading?]
      · exact ih _ h

theorem Recover.applying_of_resume {c d : Recover} (h : (c.resume now g reply).2 = .waiting d)
    (hd : d.reading? = some (a, .applying n)) :
    c.reading? = some (a, .applying n) ∨ c.reading? = some (a, .asking) ∧ reply = .count n := by
  cases c with
  | listing held =>
      cases reply with
      | accounts as =>
          cases h
          exact absurd hd (not_applying_nextAccount _)
      | failed e => cases h
      | _ =>
          cases h
          cases hd
  | reconciling b r rest =>
      simp only [resume] at h
      split at h
      · rename_i hstep
        cases h
        cases hd
        simpa [reading?] using Reconcile.applying_of_resume (congrArg Prod.snd hstep)
      · cases h
        exact absurd hd (not_applying_nextAccount _)
      · cases h
  | loading =>
      cases reply with
      | records rs => exact absurd hd (not_applying_takeIn _ _ _ h)
      | failed e => cases h
      | _ =>
          cases h
          cases hd
  | claiming record o rest total =>
      simp only [resume] at h
      split at h
      · rename_i o' hstep
        cases h
        obtain ⟨r, ho', heq⟩ := Option.map_eq_some_iff.mp hd
        cases heq
        simpa [reading?] using Obtain.applying_of_resume (congrArg Prod.snd hstep) ho'
      · exact absurd hd (not_applying_takeIn _ _ _ h)
      · exact absurd hd (not_applying_takeIn _ _ _ h)
      · cases h

theorem Monitor.not_applying_settle (m : Monitor) {d : Monitor} (h : m.settle g = .waiting d) :
    d.reading? = none := by
  simp only [settle] at h
  split at h
  · cases h
  · cases h
    rfl

theorem Monitor.applying_of_afterReconcile {m d : Monitor} {x : Progress ReconcileAll Unit}
    (h : m.afterReconcile g x = .waiting d) (hd : d.reading? = some (a, .applying n)) :
    ∃ c, x = .waiting c ∧ (c.account, c.stage) = (a, .applying n) := by
  cases x with
  | waiting c =>
      cases h
      exact ⟨c, rfl, Option.some.inj hd⟩
  | ended u =>
      rw [not_applying_settle _ h] at hd
      cases hd

theorem Monitor.not_applying_afterSweep {m d : Monitor} {x : Progress Sweep Nat}
    (h : m.afterSweep g x = .waiting d) : d.reading? = none := by
  cases x with
  | waiting s =>
      cases h
      rfl
  | ended k => exact not_applying_settle _ h

theorem Monitor.not_applying_act {m d : Monitor} {i : Nat} (hm : m.activity = .idle)
    (h : (m.act p now g i).2 = .waiting d) : d.reading? ≠ some (a, .applying n) := by
  have hacts := m.acts p now g i
  generalize m.act p now g i = x at hacts h
  cases hacts with
  | sweeps =>
      rw [not_applying_afterSweep h]
      exact Option.some_ne_none _ ∘ Eq.symm
  | reconciles =>
      intro hd
      obtain ⟨c, hc, hstage⟩ := applying_of_afterReconcile h hd
      cases hknown : g.knownAccounts with
      | nil =>
          rw [hknown] at hc
          cases hc
      | cons b rest =>
          rw [hknown] at hc
          cases hc
          cases hstage
  | forgets evicts =>
      rw [not_applying_settle _ h]
      exact Option.some_ne_none _ ∘ Eq.symm
  | breaksOff => cases h
  | waits =>
      cases h
      simp [reading?, hm]

theorem Monitor.applying_of_resume {m d : Monitor} {slot : Nat}
    (h : (m.resume p now g slot reply).2 = .waiting d)
    (hd : d.reading? = some (a, .applying n)) :
    m.reading? = some (a, .applying n) ∨ m.reading? = some (a, .asking) ∧ reply = .count n := by
  cases hm : m.activity with
  | idle =>
      cases reply with
      | done =>
          simp only [resume, hm] at h
          exact absurd hd (not_applying_act hm h)
      | _ =>
          simp only [resume, hm] at h
          cases h
          exact .inl hd
  | sweeping s =>
      simp only [resume, hm] at h
      rw [not_applying_afterSweep h] at hd
      cases hd
  | reconciling r =>
      simp only [resume, hm] at h
      obtain ⟨c, hc, hstage⟩ := applying_of_afterReconcile h hd
      simpa [reading?, hm] using ReconcileAll.applying_of_resume hc hstage

/-- A call reads on, or an answer has come to a question that it has asked. -/
theorem Call.applying_of_resume {c d : Call} {slot : Nat}
    (h : (c.resume p now g slot reply).2 = .waiting d) (hd : d.reading? = some (a, .applying n)) :
    c.reading? = some (a, .applying n) ∨ c.reading? = some (a, .asking) ∧ reply = .count n := by
  have hproceed : (c.proceed p now g slot reply).2 = .waiting d →
      c.reading? = some (a, .applying n) ∨ c.reading? = some (a, .asking) ∧ reply = .count n := by
    intro h
    cases c with
    | reconcile b r =>
        obtain ⟨r', hr', rfl⟩ := Progress.exists_of_map_eq_waiting h
        cases hd
        simpa [reading?] using Reconcile.applying_of_resume hr'
    | obtain b choice o =>
        obtain ⟨o', ho', rfl⟩ := Progress.exists_of_map_eq_waiting h
        obtain ⟨r, hr, heq⟩ := Option.map_eq_some_iff.mp hd
        cases heq
        simpa [reading?] using Obtain.applying_of_resume ho' hr
    | submit stage =>
        obtain ⟨stage', hstage', rfl⟩ := Progress.exists_of_map_eq_waiting h
        exact Submit.applying_of_resume hstage' hd
    | recover stage =>
        obtain ⟨stage', hstage', rfl⟩ := Progress.exists_of_map_eq_waiting h
        exact Recover.applying_of_resume hstage' hd
    | reconcileAll stage =>
        obtain ⟨stage', hstage', rfl⟩ := Progress.exists_of_map_eq_waiting h
        simpa [reading?] using ReconcileAll.applying_of_resume hstage' (Option.some.inj hd)
    | monitor stage =>
        obtain ⟨stage', hstage', rfl⟩ := Progress.exists_of_map_eq_waiting h
        exact Monitor.applying_of_resume hstage' hd
    | giveBack b k => cases h
    | expire b => cases h
    | storeHealth => cases h
    | readiness store =>
        cases store with
        | none =>
            cases h
            cases hd
        | some ok => cases h
    | _ =>
        obtain ⟨stage', -, rfl⟩ := Progress.exists_of_map_eq_waiting h
        cases hd
  cases reply with
  | crashed crash =>
      simp only [resume] at h
      split at h
      · cases h
      · cases h
        exact .inl hd
  | _ => exact hproceed h

/-- A call that has just been set going has no answer yet. -/
theorem Call.not_applying_of_start {t : Task} {d : Call}
    (h : (start p now g t).2 = .waiting d) : d.reading? ≠ some (a, .applying n) := by
  cases t with
  | monitor =>
      obtain ⟨m, hm, rfl⟩ := Progress.exists_of_map_eq_waiting h
      simp only [Monitor.start] at hm
      split at hm
      · cases hm
      · rw [reading?, Monitor.not_applying_settle _ hm]
        exact Option.some_ne_none _ ∘ Eq.symm
  | submit request =>
      cases h
      simp only [reading?, Submit.start]
      split <;> simp [Submit.reading?]
  | reconcileAll =>
      obtain ⟨c, hc, rfl⟩ := Progress.exists_of_map_eq_waiting h
      cases hknown : g.knownAccounts with
      | nil =>
          rw [hknown] at hc
          cases hc
      | cons b rest =>
          rw [hknown] at hc
          cases hc
          simp [reading?]
  | giveBack b k =>
      simp only [start] at h
      split at h <;> cases h
      simp [reading?]
  | expire b =>
      simp only [start] at h
      split at h <;> cases h
      simp [reading?]
  | poll k =>
      obtain ⟨c, -, rfl⟩ := Progress.exists_of_map_eq_waiting h
      simp [reading?]
  | settle k =>
      obtain ⟨c, -, rfl⟩ := Progress.exists_of_map_eq_waiting h
      simp [reading?]
  | sweep =>
      obtain ⟨c, -, rfl⟩ := Progress.exists_of_map_eq_waiting h
      simp [reading?]
  | _ =>
      cases h
      simp [reading?, Obtain.reading?, Recover.reading?]

theorem Reconcile.applying_of_turn? {r : Reconcile} (h : r.turn? reply = some (.confirm n)) :
    r = .applying n := by
  cases r with
  | asking => cases reply <;> cases h
  | applying count => cases reply <;> cases h; rfl

theorem Obtain.applying_of_turn? {o : Obtain} {choice : NonceChoice}
    (h : o.turn? choice reply = some (.confirm n)) : o.reading? = some (.applying n) := by
  cases o with
  | turn => cases reply <;> cases h
  | seeding r => exact congrArg some (Reconcile.applying_of_turn? h)

theorem ReconcileAll.applying_of_turn? {c : ReconcileAll}
    (h : c.turn? reply = some (a, .confirm n)) : (c.account, c.stage) = (a, .applying n) := by
  obtain ⟨t, ht, heq⟩ := Option.map_eq_some_iff.mp h
  cases heq
  exact congrArg _ (Reconcile.applying_of_turn? ht)

theorem Submit.applying_of_turn? {c : Submit} (h : c.turn? reply = some (a, .confirm n)) :
    c.reading? = some (a, .applying n) := by
  obtain ⟨request, stage⟩ := c
  cases stage with
  | refreshing r =>
      obtain ⟨t, ht, heq⟩ := Option.map_eq_some_iff.mp h
      cases heq
      obtain rfl := Reconcile.applying_of_turn? ht
      rfl
  | obtaining o =>
      obtain ⟨t, ht, heq⟩ := Option.map_eq_some_iff.mp h
      cases heq
      simp [reading?, Obtain.applying_of_turn? ht]
  | _ => cases reply <;> cases h

theorem Recover.applying_of_turn? {c : Recover} (h : c.turn? reply = some (a, .confirm n)) :
    c.reading? = some (a, .applying n) := by
  cases c with
  | reconciling b r rest =>
      obtain ⟨t, ht, heq⟩ := Option.map_eq_some_iff.mp h
      cases heq
      obtain rfl := Reconcile.applying_of_turn? ht
      rfl
  | claiming record o rest total =>
      obtain ⟨t, ht, heq⟩ := Option.map_eq_some_iff.mp h
      cases heq
      simp [reading?, Obtain.applying_of_turn? ht]
  | _ => cases h

theorem Settle.not_confirm (c : Settle) : c.turn? reply ≠ some (a, .confirm n) := by
  cases c <;> cases reply <;> simp [turn?]

theorem Sweep.not_confirm (s : Sweep) (slot : Nat) : s.turn? slot reply ≠ some (a, .confirm n) := by
  intro h
  obtain ⟨c, -, hc⟩ := Option.bind_eq_some_iff.mp h
  exact c.not_confirm hc

theorem Monitor.applying_of_turn? {m : Monitor} {slot : Nat}
    (h : m.turn? slot reply = some (a, .confirm n)) : m.reading? = some (a, .applying n) := by
  obtain ⟨refresh, reconcile, cleanup, activity⟩ := m
  cases activity with
  | idle => cases h
  | sweeping s => exact absurd h (s.not_confirm slot)
  | reconciling c => exact congrArg some (ReconcileAll.applying_of_turn? h)

/-- A call takes a count in only if the count waits for a turn. -/
theorem Call.applying_of_turn? {c : Call} {slot : Nat}
    (h : c.turn? slot reply = some (a, .confirm n)) : c.reading? = some (a, .applying n) := by
  have hturnOf : c.turnOf? slot reply = some (a, .confirm n) →
      c.reading? = some (a, .applying n) := by
    intro h
    cases c with
    | reconcile b r =>
        obtain ⟨t, ht, heq⟩ := Option.map_eq_some_iff.mp h
        cases heq
        obtain rfl := Reconcile.applying_of_turn? ht
        rfl
    | obtain b choice o =>
        obtain ⟨t, ht, heq⟩ := Option.map_eq_some_iff.mp h
        cases heq
        simp [reading?, Obtain.applying_of_turn? ht]
    | submit stage => exact Submit.applying_of_turn? h
    | recover stage => exact Recover.applying_of_turn? h
    | reconcileAll stage => exact congrArg some (ReconcileAll.applying_of_turn? h)
    | monitor stage => exact Monitor.applying_of_turn? h
    | settle stage => exact absurd h stage.not_confirm
    | sweep stage => exact absurd h (stage.not_confirm slot)
    | chore stage => cases stage <;> cases reply <;> cases h
    | _ => cases h
  cases reply with
  | crashed crash => cases h
  | _ => exact hturnOf h

end

namespace System

variable {p : Policy} {ms : List Moment} {s : System} {m : Moment} {a : Address} {c n i k l : Nat}

/-- The account whose ledger a call in progress is bringing up to date, and how far it is. -/
def reading? (s : System) (c : Nat) : Option (Address × Reconcile) :=
  (s.calls.get? c).bind Call.reading?

/-- A call reads the chain: at one moment of a run it asks for the count of an account, at a later
one the answer comes, and at a still later one it takes the count into the ledger. -/
structure Reads (p : Policy) (ms : List Moment) (a : Address) (c count asked answered taken : Nat) :
    Prop where
  /-- The question comes before the answer. -/
  asked_lt : asked < answered
  /-- The answer comes before the turn at the ledger. -/
  answered_lt : answered < taken
  /-- The call has not been asking before. -/
  not_asking : (upTo p ms asked).reading? c ≠ some (a, .asking)
  /-- It asks until the answer comes. -/
  asking : ∀ k, asked < k → k ≤ answered → (upTo p ms k).reading? c = some (a, .asking)
  /-- The answer is the count. -/
  answer : At p ms answered fun _ m => ∃ slot, m.what = .event (.reply c slot (.count count))
  /-- The call waits for a turn. -/
  applying : ∀ k, answered < k → k ≤ taken → (upTo p ms k).reading? c = some (a, .applying count)
  /-- It takes the count in. -/
  takes : At p ms taken fun s m => m.call? = some c ∧ TakesIn a count s m

/-- A call that waits for a turn with a count has waited for it before, or has just got it for an
answer to its question. -/
theorem applying_of_pass (h : (s.pass p m).reading? c = some (a, .applying n)) :
    s.reading? c = some (a, .applying n) ∨
      s.reading? c = some (a, .asking) ∧ ∃ slot, m.what = .event (.reply c slot (.count n)) := by
  obtain ⟨d, hget, hd⟩ := Option.bind_eq_some_iff.mp h
  cases comes_of_get?_pass hget with
  | stays hstays => exact .inl (Option.bind_eq_some_iff.mpr ⟨d, hstays, hd⟩)
  | @resumes slot r before hwhat hbefore hresume _ =>
      rcases Call.applying_of_resume hresume hd with hwas | ⟨hwas, rfl⟩
      · exact .inl (Option.bind_eq_some_iff.mpr ⟨before, hbefore, hwas⟩)
      · exact .inr ⟨Option.bind_eq_some_iff.mpr ⟨before, hbefore, hwas⟩, slot, hwhat⟩
  | starts hwhat heq hstart _ => exact absurd hd (Call.not_applying_of_start hstart)
  | chore heq hle =>
      subst heq
      cases hd

/-- Every count that is taken in has been read: the call that takes it in has asked for it at an
earlier moment. -/
theorem exists_reads (h : At p ms l (TakesIn a n)) :
    ∃ c j t, Reads p ms a c n j t l := by
  obtain ⟨m, hm, hturn⟩ := h
  obtain ⟨c, hcall, hlast⟩ : ∃ c, m.call? = some c ∧
      (upTo p ms l).reading? c = some (a, .applying n) := by
    obtain ⟨now, what⟩ := m
    cases what with
    | event e =>
        cases e with
        | reply c slot r =>
            obtain ⟨d, hget, hd⟩ := Option.bind_eq_some_iff.mp hturn
            exact ⟨c, rfl, Option.bind_eq_some_iff.mpr ⟨d, hget, Call.applying_of_turn? hd⟩⟩
        | start t => cases hturn
        | abandon i => cases hturn
    | evict olderThan => cases hturn
    | close => cases hturn
  have hfirst : ∀ x, (upTo p ms 0).reading? c ≠ some x := fun x hx => by cases hx
  -- The answer has come when the call has last not been waiting for its turn.
  obtain ⟨t, -, htl, hnot, happlying⟩ := exists_last_not
    (P := fun k => (upTo p ms k).reading? c = some (a, .applying n)) (Nat.zero_le l) (hfirst _)
    hlast
  have htlen : t < ms.length := htl.trans_le (le_length hm)
  have hmt : ms[t]? = some ms[t] := List.getElem?_eq_getElem htlen
  have hnext := happlying (t + 1) (Nat.lt_succ_self t) htl
  rw [upTo_succ hmt] at hnext
  obtain ⟨hasking, hanswer⟩ := (applying_of_pass hnext).resolve_left hnot
  -- The question has gone out when the call has last not been asking.
  obtain ⟨j, -, hjt, hnotAsking, hall⟩ := exists_last_not
    (P := fun k => (upTo p ms k).reading? c = some (a, .asking)) (Nat.zero_le t) (hfirst _) hasking
  exact ⟨c, j, t, hjt, htl, hnotAsking, hall, ⟨_, hmt, hanswer⟩, happlying, m, hm, hcall, hturn⟩

end System

end TxGateway
