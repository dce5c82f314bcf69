import TxGateway.Proofs.HandOut

/-!
# Tidy runs

A run is tidy if nonces are handed out to submissions only, every poll settles what it finds, and no
call is dropped while it waits for a turn at a ledger. A nonce that has become pending in a tidy run
has been given to a submission.
-/

namespace TxGateway

/-- Whether a task handles nonces and statuses by submissions and settling polls only. -/
def Task.isTidy : Task → Bool
  | obtain .. | giveBack .. | poll _ | recover _ => false
  | _ => true

theorem Task.isOrderly_of_isTidy {t : Task} (h : t.isTidy = true) : t.isOrderly = true := by
  cases t with
  | giveBack a n => cases h
  | recover held => cases h
  | _ => rfl

namespace Call

/-- Whether a call gets a nonce for nobody, or does not settle what it finds. -/
def isBare : Call → Bool
  | obtain .. | poll _ => true
  | _ => false

/-- A call of a tidy task in a sound state. -/
def Tidy (c : Call) : Prop := c.Orderly ∧ c.isBare = false

/-- Whether a call waits for a turn at a ledger. -/
def WaitsForTurn (c : Call) : Prop := ∃ slot a, (slot, Query.turn a) ∈ c.queries

theorem isBare_start {p : Policy} {now : Timestamp} {g : Gateway} {t : Task} (ht : t.isTidy = true)
    {d : Call} (hd : (start p now g t).2 = .waiting d) : d.isBare = false := by
  cases t with
  | obtain a choice => cases ht
  | giveBack a n => cases ht
  | poll h => cases ht
  | recover held => cases ht
  | expire a =>
      simp only [start] at hd
      split at hd <;> cases hd
      rfl
  | settle h =>
      obtain ⟨c, rfl⟩ := Progress.of_map_eq_waiting hd
      rfl
  | reconcileAll =>
      obtain ⟨c, rfl⟩ := Progress.of_map_eq_waiting hd
      rfl
  | sweep =>
      obtain ⟨c, rfl⟩ := Progress.of_map_eq_waiting hd
      rfl
  | monitor =>
      obtain ⟨c, rfl⟩ := Progress.of_map_eq_waiting hd
      rfl
  | _ =>
      cases hd
      rfl

theorem isBare_resume {p : Policy} {now : Timestamp} {g : Gateway} {c d : Call} {slot : Nat}
    {reply : Reply} (hd : (c.resume p now g slot reply).2 = .waiting d) : d.isBare = c.isBare := by
  have hproceed : (c.proceed p now g slot reply).2 = .waiting d → d.isBare = c.isBare := by
    intro hd
    cases c with
    | giveBack a n => cases hd
    | expire a => cases hd
    | storeHealth => cases hd
    | readiness store =>
        cases store with
        | none =>
            cases hd
            rfl
        | some ok => cases hd
    | _ =>
        simp only [proceed] at hd
        obtain ⟨c', rfl⟩ := Progress.of_map_eq_waiting hd
        rfl
  cases reply with
  | crashed crash =>
      simp only [resume] at hd
      split at hd <;> cases hd
      rfl
  | _ => exact hproceed hd

/-- In a tidy run only a submission is given a nonce. -/
theorem obtaining_of_turn? {c : Call} (hc : c.Tidy) {slot : Nat} {reply : Reply} {a : Address}
    {choice : NonceChoice} (ht : c.turn? slot reply = some (a, .obtain choice)) :
    ∃ request : Request, c = .submit ⟨request, .obtaining .turn⟩ ∧ reply = .done ∧
      request.account = a ∧ request.choice = choice := by
  have hreconcile : ∀ (r : Reconcile) (b : Address),
      (r.turn? reply).map (b, ·) ≠ some (a, .obtain choice) := by
    intro r b hr
    cases r with
    | asking => cases hr
    | applying count => cases reply <;> cases hr
  have hsettle : ∀ s : Settle, s.turn? reply ≠ some (a, .obtain choice) := by
    intro s hs
    cases s <;> cases reply <;> cases hs
  have hsweep : ∀ s : Sweep, s.turn? slot reply ≠ some (a, .obtain choice) := by
    intro s hs
    obtain ⟨c', -, hs⟩ := Option.bind_eq_some_iff.mp hs
    exact hsettle c' hs
  have hof : c.turnOf? slot reply = some (a, .obtain choice) := by
    cases reply with
    | crashed crash => cases ht
    | _ => exact ht
  cases c with
  | obtain b choice stage => cases hc.2
  | recover stage => exact hc.1.elim
  | reconcile b stage => exact absurd hof (hreconcile stage b)
  | settle stage => exact absurd hof (hsettle stage)
  | sweep stage => exact absurd hof (hsweep stage)
  | reconcileAll stage => exact absurd hof (hreconcile stage.stage stage.account)
  | monitor stage =>
      obtain ⟨refresh, reconcile, cleanup, activity⟩ := stage
      cases activity with
      | idle => cases hof
      | sweeping s => exact absurd hof (hsweep s)
      | reconciling r => exact absurd hof (hreconcile r.stage r.account)
  | chore stage => cases stage <;> cases reply <;> cases hof
  | submit stage =>
      obtain ⟨request, stage⟩ := stage
      cases stage with
      | refreshing r => exact absurd hof (hreconcile r _)
      | obtaining o =>
          cases o with
          | turn =>
              cases reply with
              | done =>
                  cases hof
                  exact ⟨request, rfl, rfl, rfl, rfl⟩
              | _ => cases hof
          | seeding r => exact absurd hof (hreconcile r _)
      | returning n e => cases reply <;> cases hof
      | _ => cases hof
  | _ => cases hof

end Call

/-- Whether a moment is tidy in a system. -/
def Moment.IsTidy (s : System) (m : Moment) : Prop :=
  match m.what with
  | .event (.start t) => t.isTidy = true
  | .event (.abandon i) | .event (.reply i _ (.crashed _)) =>
    ∀ c, s.calls.get? i = some c → ¬ c.WaitsForTurn
  | _ => True

theorem Moment.isOrderly_of_isTidy {s : System} {m : Moment} (h : m.IsTidy s) : m.IsOrderly := by
  obtain ⟨now, what⟩ := m
  cases what with
  | event e =>
      cases e with
      | start t => exact Task.isOrderly_of_isTidy h
      | _ => trivial
  | _ => trivial

/-- A count that comes in makes no nonce pending. -/
theorem Ledger.mem_pending_of_confirm {l : Ledger} {now : Timestamp} {count n : Nat}
    (hn : n ∈ (l.confirm now count).pending) : n ∈ l.pending := by
  simp only [confirm] at hn
  split at hn
  · exact hn
  · exact List.mem_of_mem_filter hn

/-- A nonce that is pending after it has been given back is another one. -/
theorem Ledger.mem_pending_of_giveBack {l : Ledger} {k n : Nat}
    (hn : n ∈ ((l.giveBack? k).getD l).pending) : n ∈ l.pending ∧ n ≠ k := by
  cases hg : l.giveBack? k with
  | none =>
      rw [hg, Option.getD_none] at hn
      refine ⟨hn, ?_⟩
      rintro rfl
      exact (giveBack?_eq_none_iff l n).mp hg ((mem_book l n).mpr hn)
  | some t =>
      obtain ⟨-, rfl⟩ := eq_of_giveBack? hg
      rw [hg, Option.getD_some] at hn
      simpa using hn

/-- What is pending after asking for a nonce was pending before, or it is the nonce that is got. -/
theorem Gateway.pending_obtain {g : Gateway} {a : Address} {choice : NonceChoice} {n : Nat}
    (hn : n ∈ ((g.obtain a choice).1.ledger a).pending) :
    n ∈ (g.ledger a).pending ∨ (g.obtain a choice).2 = some (.ok n) := by
  cases hs : (g.ledger a).seeded with
  | false =>
      simp only [obtain, hs, Bool.not_false, if_true] at hn
      exact .inl hn
  | true =>
      cases choice with
      | next =>
          simp only [obtain, hs, Ledger.handOut_eq, Bool.not_true, Bool.false_eq_true, if_false,
            ledger_measure, ledger_setLedger, if_true, Ledger.mem_pending_issue] at hn ⊢
          rcases hn with rfl | hwas
          · exact .inr rfl
          · exact .inl hwas
      | named k =>
          cases hc : (g.ledger a).claim k with
          | error refusal =>
              simp only [obtain, hs, hc, Bool.not_true, Bool.false_eq_true, if_false,
                ledger_measure] at hn
              exact .inl hn
          | ok l =>
              obtain ⟨-, rfl⟩ := Ledger.eq_of_claim hc
              simp only [obtain, hs, hc, Bool.not_true, Bool.false_eq_true, if_false,
                ledger_measure, ledger_setLedger, if_true, Ledger.mem_pending_issue] at hn ⊢
              rcases hn with rfl | hwas
              · exact .inr rfl
              · exact .inl hwas

namespace System

variable {p : Policy} {s : System} {m : Moment} {a : Address} {n : Nat}

/-- A system in the middle of a tidy run. -/
abbrev Tidy (s : System) : Prop := s.CallsAre Call.Tidy

theorem Tidy.orderly (h : s.Tidy) : s.Orderly :=
  ⟨fun i c hget => (h.each i c hget).1, h.lt_opened⟩

/-- Whatever else happens, a system stays in the middle of a tidy run while only tidy tasks are set
going. -/
theorem Tidy.pass_of_started (h : s.Tidy) (p : Policy)
    (hm : ∀ t, m.what = .event (.start t) → t.isTidy = true) : (s.pass p m).Tidy := by
  have horderly : (s.pass p m).Orderly := by
    apply orderly_pass h.orderly p
    obtain ⟨now, what⟩ := m
    cases what with
    | event e =>
        cases e with
        | start t => exact Task.isOrderly_of_isTidy (hm t rfl)
        | _ => trivial
    | _ => trivial
  have hbare : (s.pass p m).CallsAre fun c => c.isBare = false := by
    have hwas : s.CallsAre fun c => c.isBare = false :=
      ⟨fun i c hget => (h.each i c hget).2, h.lt_opened⟩
    apply hwas.pass p m fun _ => rfl
    · intro t d hwhat hd
      exact Call.isBare_start (hm t hwhat) hd
    · intro i slot r c d _ _ hc hd
      exact (Call.isBare_resume hd).trans hc
  exact ⟨fun i c hget => ⟨horderly.each i c hget, hbare.each i c hget⟩, horderly.lt_opened⟩

/-- A tidy run stays tidy. -/
theorem Tidy.pass (h : s.Tidy) (p : Policy) (hm : m.IsTidy s) : (s.pass p m).Tidy := by
  apply h.pass_of_started p
  intro t hwhat
  rw [Moment.IsTidy, hwhat] at hm
  exact hm

/-- In a tidy run a nonce is handed out to a submission. -/
theorem HandsOut.exists_given (ho : HandsOut a n s m) (hs : s.Tidy) : ∃ c, Given c a n s m := by
  obtain ⟨choice, hturn, hgot⟩ := ho
  obtain ⟨now, what⟩ := m
  cases what with
  | event e =>
      cases e with
      | reply i slot reply =>
          obtain ⟨c, hget, hc⟩ := Option.bind_eq_some_iff.mp hturn
          obtain ⟨request, rfl, rfl, rfl, rfl⟩ := Call.obtaining_of_turn? (hs.each i c hget) hc
          exact ⟨i, request, slot, rfl, rfl, hget, hgot⟩
      | _ => cases hturn
  | _ => cases hturn

/-- A nonce that is pending after a moment was pending before and has not been given back, or it has
been handed out. -/
theorem pending_pass (hn : n ∈ (s.pass p m).gateway.pendingNonces a) :
    (n ∈ s.gateway.pendingNonces a ∧ s.turn? m ≠ some (a, .giveBack n)) ∨ HandsOut a n s m := by
  rw [Gateway.pendingNonces, ledger_pass] at hn
  cases hturn : s.turn? m with
  | none =>
      rw [hturn] at hn
      exact .inl ⟨hn, no_give_back a n⟩
  | some turn =>
      obtain ⟨b, t⟩ := turn
      rw [hturn, Gateway.afterTurn_some] at hn
      split at hn
      · rename_i hab
        subst hab
        cases t with
        | confirm count => exact .inl ⟨Ledger.mem_pending_of_confirm hn, by simp⟩
        | expire => exact .inl ⟨hn, by simp⟩
        | giveBack k =>
            obtain ⟨hwas, hne⟩ := Ledger.mem_pending_of_giveBack hn
            exact .inl ⟨hwas, by simpa using hne.symm⟩
        | obtain choice =>
            have hledger := s.gateway.ledger_obtain m.now a a choice
            rw [Gateway.afterTurn_some, if_pos rfl] at hledger
            rw [← hledger] at hn
            rcases Gateway.pending_obtain hn with hwas | hgot
            · exact .inl ⟨hwas, by simp⟩
            · exact .inr ⟨choice, hturn, hgot⟩
      · rename_i hab
        exact .inl ⟨hn, by simpa using fun hba => absurd hba.symm hab⟩

/-- Every moment of a run is tidy. -/
def IsTidyRun (p : Policy) (ms : List Moment) : Prop :=
  ∀ k (m : Moment), ms[k]? = some m → m.IsTidy (upTo p ms k)

theorem IsTidyRun.isOrderly {ms : List Moment} (h : IsTidyRun p ms) : ∀ m ∈ ms, m.IsOrderly := by
  intro m hm
  obtain ⟨k, hk⟩ := List.mem_iff_getElem?.mp hm
  exact Moment.isOrderly_of_isTidy (h k m hk)

theorem IsTidyRun.tidy {ms : List Moment} (h : IsTidyRun p ms) {k : Nat} (hk : k ≤ ms.length) :
    (upTo p ms k).Tidy := by
  apply upTo_induction (P := fun _ s => s.Tidy) (Nat.zero_le k) hk callsAre_zero
  intro j m _ _ hm hs
  exact hs.pass p (h j m hm)

end System

end TxGateway
