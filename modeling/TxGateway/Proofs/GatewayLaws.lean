import TxGateway.Gateway

/-!
# Looking at a gateway after an operation

What the operations of a gateway do to the ledger of every account, and what they leave alone: those
on the nonces of one account write at most its ledger.
-/

namespace TxGateway.Gateway

/-- Two gateways with the same watchlist that have issued the same serial numbers. -/
structure Steady (g t : Gateway) : Prop where
  /-- The same transactions are watched. -/
  watchlist_eq : t.watchlist = g.watchlist
  /-- The same serial numbers have been issued. -/
  issued_eq : t.issued = g.issued

/-- Two steady gateways of which at most the entry of one account differs. -/
structure Spares (g t : Gateway) (a : Address) : Prop extends Steady g t where
  /-- The entries of all other accounts are the same. -/
  others : ∀ o, o ≠ a → t.ledgers.get? o = g.ledgers.get? o

section

variable (g : Gateway) {t u : Gateway} (a : Address)

theorem Steady.refl : g.Steady g := ⟨rfl, rfl⟩

variable {g} in
theorem Steady.trans (h : g.Steady t) (k : t.Steady u) : g.Steady u :=
  ⟨k.watchlist_eq.trans h.watchlist_eq, k.issued_eq.trans h.issued_eq⟩

theorem steady_measure (f : Registry → Registry) : g.Steady (g.measure f) := ⟨rfl, rfl⟩

theorem spares_refl : g.Spares g a := ⟨.refl g, fun _ _ => rfl⟩

theorem spares_setLedger (l : Ledger) : g.Spares (g.setLedger a l) a where
  watchlist_eq := rfl
  issued_eq := rfl
  others := fun o ho => by simp [setLedger, Table.get?_set, ho]

variable {g a} in
/-- What is noted in the metrics changes nothing else. -/
theorem Spares.measure (h : g.Spares t a) (f : Registry → Registry) : g.Spares (t.measure f) a :=
  ⟨⟨h.watchlist_eq, h.issued_eq⟩, h.others⟩

theorem spares_ensureLedger : g.Spares (g.ensureLedger a) a := by
  simp only [ensureLedger]
  split
  · exact g.spares_refl a
  · exact g.spares_setLedger a {}

theorem spares_reconcile (now : Timestamp) (count : Nat) :
    g.Spares (g.reconcile now a count).1 a := by
  dsimp only [reconcile]
  exact (g.spares_setLedger a _).measure _

theorem spares_obtain (choice : NonceChoice) : g.Spares (g.obtain a choice).1 a := by
  simp only [obtain]
  split
  · exact g.spares_refl a
  · split
    · dsimp only
      exact (g.spares_setLedger a _).measure _
    · split
      · exact (g.spares_refl a).measure _
      · dsimp only
        exact (g.spares_setLedger a _).measure _

theorem spares_giveBack (n : Nat) : g.Spares (g.giveBack a n).1 a := by
  simp only [giveBack]
  split
  · exact g.spares_refl a
  · split
    · exact g.spares_refl a
    · dsimp only
      exact (g.spares_setLedger a _).measure _

theorem spares_expire : g.Spares (g.expire a) a := by
  simp only [expire]
  split
  · exact g.spares_refl a
  · exact g.spares_setLedger a _

end

section

variable (g : Gateway) (a b : Address)

@[simp] theorem ledger_setLedger (l : Ledger) :
    (g.setLedger a l).ledger b = if b = a then l else g.ledger b := by
  by_cases h : b = a
  · simp [ledger, setLedger, h]
  · simp [ledger, setLedger, Table.get?_set, h]

@[simp] theorem ledger_measure (f : Registry → Registry) : (g.measure f).ledger b = g.ledger b :=
  rfl

theorem ledger_of_get? {l : Ledger} (h : g.ledgers.get? a = some l) : g.ledger a = l := by
  simp [ledger, h]

theorem ledger_of_not_contains (h : g.ledgers.contains a = false) : g.ledger a = {} := by
  cases hget : g.ledgers.get? a with
  | none => simp [ledger, hget]
  | some l => simp [Table.contains, hget] at h

theorem ensureLedger_of_contains (h : g.ledgers.contains a = true) : g.ensureLedger a = g := by
  simp [ensureLedger, h]

theorem contains_of_seeded (h : (g.ledger a).seeded = true) : g.ledgers.contains a = true := by
  cases hc : g.ledgers.contains a with
  | true => rfl
  | false =>
      rw [g.ledger_of_not_contains a hc] at h
      cases h

@[simp] theorem ledger_ensureLedger : (g.ensureLedger a).ledger b = g.ledger b := by
  by_cases h : g.ledgers.contains a = true
  · simp [ensureLedger, h]
  · by_cases hb : b = a
    · subst hb
      simp [ensureLedger, h, g.ledger_of_not_contains b (Bool.eq_false_iff.mpr h)]
    · simp [ensureLedger, h, hb]

@[simp] theorem ledger_reconcile (now : Timestamp) (count : Nat) :
    (g.reconcile now a count).1.ledger b =
      if b = a then (g.ledger a).confirm now count else g.ledger b := by
  simp [reconcile]

@[simp] theorem ledger_giveBack (n : Nat) :
    (g.giveBack a n).1.ledger b =
      if b = a then ((g.ledger a).giveBack? n).getD (g.ledger a) else g.ledger b := by
  cases hget : g.ledgers.get? a with
  | none =>
      have hempty : g.ledger a = {} := by simp [ledger, hget]
      by_cases hb : b = a
      · subst hb
        simp [giveBack, hget, hempty, Ledger.giveBack?]
      · simp [giveBack, hget, hb]
  | some l =>
      have hl := g.ledger_of_get? a hget
      cases hback : l.giveBack? n with
      | none =>
          by_cases hb : b = a
          · subst hb
            simp [giveBack, hget, hback, hl]
          · simp [giveBack, hget, hback, hb]
      | some t => simp [giveBack, hget, hback, hl]

@[simp] theorem ledger_expire :
    (g.expire a).ledger b = if b = a then (g.ledger a).expire else g.ledger b := by
  cases hget : g.ledgers.get? a with
  | none =>
      have hempty : g.ledger a = {} := by simp [ledger, hget]
      by_cases hb : b = a
      · subst hb
        simp [expire, hget, hempty, Ledger.expire]
      · simp [expire, hget, hb]
  | some l => simp [expire, hget, g.ledger_of_get? a hget]

@[simp] theorem ledger_watch (r : Record) : (g.watch r).1.ledger b = g.ledger b := by
  simp only [watch]
  split <;> rfl

theorem ledger_of_watch {r : Record} {t : Gateway} {x : Except Failure Unit}
    (h : g.watch r = (t, x)) : t.ledger b = g.ledger b := by
  rw [← g.ledger_watch b r, h]

@[simp] theorem ledger_restore (r : Record) : (g.restore r).ledger b = g.ledger b := rfl

variable {g} in
/-- A round of forgetting leaves everything as it is, or takes records off the watchlist. -/
theorem purged_of_evict {now : Timestamp} {olderThan : Duration} {n : Nat}
    (h : g.evict now olderThan = .ok (t, n)) :
    t = g ∨ ∃ cutoff, t = { g with watchlist := g.watchlist.purge cutoff } := by
  simp only [evict] at h
  split at h
  · cases h
    exact .inl rfl
  · cases h
  · cases h
    exact .inr ⟨_, rfl⟩

theorem ledger_evict {now : Timestamp} {olderThan : Duration} {n : Nat}
    (h : g.evict now olderThan = .ok (t, n)) : t.ledger b = g.ledger b := by
  rcases purged_of_evict h with rfl | ⟨cutoff, rfl⟩ <;> rfl

end

end TxGateway.Gateway
