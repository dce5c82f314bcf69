import TxGateway.Proofs.BookRefinement

/-!
# Ledgers rebuilt from stored records

For each account the live records say which nonces must not be handed out again: those at or above
the confirmed count. A ledger reflects records if its book is that one, or will be as soon as it has
been brought up to date. Bringing a ledger up to date and claiming the nonce of one more record keep
that, so the order of the records does not matter.
-/

namespace TxGateway

namespace Book

/-- The book of an account with a confirmed count, if these records are all that has been sent. -/
def ofRecords (a : Address) (count : Nat) (rs : List Record) : Book where
  floor := count
  held := ((rs.filter fun r => r.isLive && decide (r.account = a ∧ count ≤ r.nonce)).map
    (·.nonce)).toFinset

variable {a : Address} {count : Nat} {rs rs' : List Record}

@[simp] theorem floor_ofRecords : (ofRecords a count rs).floor = count := rfl

theorem mem_ofRecords {n : Nat} : n ∈ (ofRecords a count rs).held ↔
    count ≤ n ∧ ∃ r ∈ rs, r.isLive = true ∧ r.account = a ∧ r.nonce = n := by
  simp only [ofRecords, List.mem_toFinset, List.mem_map, List.mem_filter, Bool.and_eq_true,
    decide_eq_true_eq]
  constructor
  · rintro ⟨r, ⟨hr, hlive, haccount, hle⟩, rfl⟩
    exact ⟨hle, r, hr, hlive, haccount, rfl⟩
  · rintro ⟨hle, r, hr, hlive, haccount, rfl⟩
    exact ⟨r, ⟨hr, hlive, haccount, hle⟩, rfl⟩

/-- Only which records there are matters, not their order. -/
theorem ofRecords_congr (h : ∀ r, r ∈ rs ↔ r ∈ rs') :
    ofRecords a count rs = ofRecords a count rs' := by
  ext n
  · rfl
  · simp only [mem_ofRecords, h]

theorem mem_ofRecords_append {r : Record} {n : Nat} :
    n ∈ (ofRecords a count (rs ++ [r])).held ↔ n ∈ (ofRecords a count rs).held ∨
      (count ≤ n ∧ r.isLive = true ∧ r.account = a ∧ r.nonce = n) := by
  simp only [mem_ofRecords, List.mem_append, List.mem_singleton, or_and_right, exists_or,
    exists_eq_left, and_or_left]

/-- There is room if no live record has the greatest nonce. -/
theorem hasRoom_ofRecords (h : ∀ r ∈ rs, r.isLive = true → r.nonce < Ledger.lastNonce) :
    (ofRecords a count rs).HasRoom := by
  intro n hn
  obtain ⟨-, r, hr, hlive, -, rfl⟩ := mem_ofRecords.mp hn
  exact h r hr hlive

/-- A record that is final or of another account adds nothing. -/
theorem ofRecords_append_of_not {r : Record} (h : ¬ (r.isLive = true ∧ r.account = a)) :
    ofRecords a count (rs ++ [r]) = ofRecords a count rs := by
  ext n
  · rfl
  · rw [mem_ofRecords_append, or_iff_left]
    rintro ⟨-, hlive, haccount, -⟩
    exact h ⟨hlive, haccount⟩

/-- A live record of the account adds its nonce, unless that is confirmed or held already: it does
what a claim of the nonce does. -/
theorem ofRecords_append {r : Record} (hlive : r.isLive = true) :
    ofRecords r.account count (rs ++ [r]) =
      ((ofRecords r.account count rs).perform r.account (.claim r.nonce)).1 := by
  by_cases hfree : count ≤ r.nonce ∧ r.nonce ∉ (ofRecords r.account count rs).held
  · rw [perform, floor_ofRecords, if_pos hfree]
    ext n
    · rfl
    · rw [mem_ofRecords_append, hold, Finset.mem_insert, or_comm]
      apply or_congr_left
      constructor
      · rintro ⟨-, -, -, hn⟩
        exact hn.symm
      · rintro rfl
        exact ⟨hfree.1, hlive, rfl, rfl⟩
  · rw [perform, floor_ofRecords, if_neg hfree]
    ext n
    · rfl
    · rw [mem_ofRecords_append, or_iff_left_of_imp]
      rintro ⟨hle, -, -, rfl⟩
      by_contra hn
      exact hfree ⟨hle, hn⟩

@[simp] theorem raise_ofRecords : (ofRecords a count rs).raise count = ofRecords a count rs := by
  ext n
  · simp [raise]
  · rw [raise, floor_ofRecords, Nat.max_self, Finset.mem_filter]
    exact and_iff_left_of_imp fun hn => (mem_ofRecords.mp hn).1

theorem raise_raise (b : Book) (count : Nat) : (b.raise count).raise count = b.raise count := by
  ext n
  · simp [raise]
  · simp [raise]

end Book

namespace Ledger

variable {l l' : Ledger} {a : Address} {count : Nat} {rs : List Record}

/-- A ledger that has been brought up to date has the book that the records give; another one will
have it when it has been. -/
structure Reflects (l : Ledger) (a : Address) (count : Nat) (rs : List Record) : Prop where
  /-- The ledger is kept. -/
  kept : l.Kept
  /-- A count that has been taken in is this one. -/
  confirmed_eq : l.seeded = true → l.confirmed = count
  /-- With the count taken in it has that book. -/
  raise_eq : l.book.raise count = .ofRecords a count rs

theorem Reflects.book_eq (h : l.Reflects a count rs) (hs : l.seeded = true) :
    l.book = .ofRecords a count rs := by
  rw [← h.raise_eq, ← h.confirmed_eq hs]
  ext n
  · simp [Book.raise]
  · simpa [Book.raise] using h.kept.floor_le n

theorem Reflects.follows (h : l.Reflects a count rs) (hs : l.seeded = true) :
    l.Follows (.ofRecords a count rs) :=
  h.book_eq hs ▸ h.kept.follows

/-- Only the book that the records give matters. -/
theorem Reflects.congr {rs' : List Record} (h : l.Reflects a count rs)
    (hrs : Book.ofRecords a count rs' = .ofRecords a count rs) : l.Reflects a count rs' :=
  ⟨h.kept, h.confirmed_eq, h.raise_eq.trans hrs.symm⟩

/-- A kept ledger with the book that the records give reflects them. -/
theorem Reflects.of_book (hk : l.Kept) (hb : l.book = .ofRecords a count rs) :
    l.Reflects a count rs where
  kept := hk
  confirmed_eq := fun _ => congrArg Book.floor hb
  raise_eq := by rw [hb, Book.raise_ofRecords]

theorem reflects_empty : Reflects {} a count [] where
  kept := kept_empty
  confirmed_eq := fun hf => by cases hf
  raise_eq := by simp [book, Book.raise, Book.ofRecords]

/-- Bringing a ledger up to date goes on reflecting the same records. -/
theorem Reflects.confirm (h : l.Reflects a count rs) (now : Timestamp) :
    (l.confirm now count).Reflects a count rs where
  kept := (h.kept.confirm now count).1
  confirmed_eq := by
    intro _
    rw [h.kept.confirm_eq]
    apply max_eq_right
    cases hs : l.seeded with
    | true => exact (h.confirmed_eq hs).le
    | false =>
        rw [h.kept.untouched hs]
        exact Nat.zero_le count
  raise_eq := by rw [(h.kept.confirm now count).2, Book.raise_raise, h.raise_eq]

/-- Two ledgers with the same book differ at most in the time of the last question. -/
theorem Follows.expire_eq {b : Book} (h : l.Follows b) (h' : l'.Follows b)
    (hs : l.seeded = l'.seeded) : l.expire = l'.expire := by
  have hnext := h.next_eq.trans h'.next_eq.symm
  have hpending := h.pending_eq.trans h'.pending_eq.symm
  have hconfirmed := h.confirmed_eq.trans h'.confirmed_eq.symm
  simp only [expire, hnext, hpending, hconfirmed, hs]

end Ledger

/-- Whether an account is one of these, or that of a live one of these records. -/
def IsKnown (as : List Address) (rs : List Record) (a : Address) : Prop :=
  a ∈ as ∨ ∃ r ∈ rs, r.isLive = true ∧ r.account = a

/-- Only which accounts and records there are matters. -/
theorem isKnown_congr {as as' : List Address} {rs rs' : List Record} (has : ∀ a, a ∈ as ↔ a ∈ as')
    (hrs : ∀ r, r ∈ rs ↔ r ∈ rs') (a : Address) : IsKnown as rs a ↔ IsKnown as' rs' a := by
  simp only [IsKnown, has, hrs]

theorem isKnown_append (as bs : List Address) (rs : List Record) (a : Address) :
    IsKnown (as ++ bs) rs a ↔ a ∈ bs ∨ IsKnown as rs a := by
  rw [IsKnown, List.mem_append, or_comm (a := a ∈ as), or_assoc, IsKnown]

theorem isKnown_append_final {r : Record} (hfinal : ¬ r.isLive = true) (as : List Address)
    (rs : List Record) (a : Address) : IsKnown as (rs ++ [r]) a ↔ IsKnown as rs a := by
  simp [IsKnown, or_and_right, exists_or, hfinal]

theorem isKnown_append_live {r : Record} (hlive : r.isLive = true) (as : List Address)
    (rs : List Record) (a : Address) :
    IsKnown as (rs ++ [r]) a ↔ a = r.account ∨ IsKnown as rs a := by
  simp only [IsKnown, List.mem_append, List.mem_singleton, or_and_right, exists_or,
    exists_eq_left, hlive, true_and]
  rw [or_comm (b := r.account = a), eq_comm, or_left_comm]

/-- The ledgers of a gateway after some accounts have been brought up to date and the nonces of some
records have been claimed. -/
structure Gateway.Rebuilt (g : Gateway) (count : Address → Nat) (as : List Address)
    (rs : List Record) : Prop where
  /-- Each ledger reflects the records; so does an empty one for an account without a ledger. -/
  reflects : ∀ a, (g.ledger a).Reflects a (count a) rs
  /-- The accounts with a ledger are these, and those of the live records. -/
  contains_iff : ∀ a, g.ledgers.contains a = true ↔ IsKnown as rs a
  /-- Every ledger has been brought up to date. -/
  seeded : ∀ a, g.ledgers.contains a = true → (g.ledger a).seeded = true

namespace Gateway

variable {g t : Gateway} {a : Address} {b : Book} {count : Address → Nat} {as as' : List Address}
  {rs rs' : List Record}

theorem rebuilt_fresh : Rebuilt {} count [] [] where
  reflects := fun _ => Ledger.reflects_empty
  contains_iff := by simp [Table.contains, IsKnown]
  seeded := by simp [Table.contains]

/-- Each ledger follows the book that the records give. -/
theorem Rebuilt.follows (h : g.Rebuilt count as rs) (a : Address) (l : Ledger)
    (hget : g.ledgers.get? a = some l) :
    l.Follows (.ofRecords a (count a) rs) ∧ l.seeded = true := by
  obtain rfl := g.ledger_of_get? a hget
  have hs := h.seeded a (by rw [Table.contains, hget]; rfl)
  exact ⟨(h.reflects a).follows hs, hs⟩

/-- Only the books that the records give and the known accounts matter. -/
theorem Rebuilt.congr (h : g.Rebuilt count as rs)
    (hrs : ∀ a, Book.ofRecords a (count a) rs' = .ofRecords a (count a) rs)
    (hknown : ∀ a, IsKnown as' rs' a ↔ IsKnown as rs a) : g.Rebuilt count as' rs' where
  reflects := fun a => (h.reflects a).congr (hrs a)
  contains_iff := fun a => (h.contains_iff a).trans (hknown a).symm
  seeded := h.seeded

/-- Taking a record in does not touch the ledgers. -/
theorem Rebuilt.restore (h : g.Rebuilt count as rs) (r : Record) :
    (g.restore r).Rebuilt count as rs :=
  ⟨h.reflects, h.contains_iff, h.seeded⟩

/-- A final record claims no nonce. -/
theorem Rebuilt.final (h : g.Rebuilt count as rs) {r : Record} (hfinal : ¬ r.isLive = true) :
    g.Rebuilt count as (rs ++ [r]) :=
  h.congr (fun _ => Book.ofRecords_append_of_not fun hr => hfinal hr.1)
    (isKnown_append_final hfinal as rs)

/-- Asking for a nonce does not count as bringing a ledger up to date. -/
theorem seeded_obtain (g : Gateway) (a : Address) (choice : NonceChoice) :
    ((g.obtain a choice).1.ledger a).seeded = (g.ledger a).seeded := by
  rw [g.ledger_obtain ⟨0⟩, afterTurn_some, if_pos rfl]
  cases choice with
  | next =>
      simp only [Turn.apply, Ledger.handOut]
      split
      · rfl
      · split <;> rfl
  | named n =>
      simp only [Turn.apply, Ledger.claim_eq]
      split
      · rfl
      · split
        · rename_i ht
          split at ht <;> cases ht
          rfl
        · rfl

/-- If something has happened to one account, only its ledger has to be looked at again. -/
theorem Rebuilt.update (h : g.Rebuilt count as rs) (hkeeps : g.Keeps t a b)
    (hs : (t.ledger a).seeded = true) (hreflects : (t.ledger a).Reflects a (count a) rs')
    (hrs : ∀ o, o ≠ a → Book.ofRecords o (count o) rs' = .ofRecords o (count o) rs)
    (hknown : ∀ o, IsKnown as' rs' o ↔ o = a ∨ IsKnown as rs o) : t.Rebuilt count as' rs' where
  reflects := by
    intro o
    by_cases ho : o = a
    · exact ho ▸ hreflects
    · have hl : t.ledger o = g.ledger o := by simp only [ledger, hkeeps.others o ho]
      rw [hl]
      exact (h.reflects o).congr (hrs o ho)
  contains_iff := by
    intro o
    rw [hknown]
    by_cases ho : o = a
    · subst ho
      simp only [t.contains_of_seeded o hs, true_or]
    · rw [← h.contains_iff, Table.contains, Table.contains, hkeeps.others o ho]
      simp only [ho, false_or]
  seeded := by
    intro o hc
    by_cases ho : o = a
    · exact ho ▸ hs
    · have hget := hkeeps.others o ho
      simp only [ledger, hget]
      apply h.seeded o
      rwa [Table.contains, ← hget]

/-- An account is brought up to date. -/
theorem Rebuilt.confirm (h : g.Rebuilt count as rs) (now : Timestamp) (hkeeps : g.Keeps t a b)
    (hl : t.ledger a = (g.ledger a).confirm now (count a)) : t.Rebuilt count (as ++ [a]) rs := by
  apply h.update hkeeps
  · rw [hl, (h.reflects a).kept.confirm_eq]
  · rw [hl]
    exact (h.reflects a).confirm now
  · intro o _
    rfl
  · intro o
    rw [isKnown_append, List.mem_singleton]

theorem Rebuilt.reconcile (h : g.Rebuilt count as rs) (now : Timestamp) (a : Address) :
    (g.reconcile now a (count a)).1.Rebuilt count (as ++ [a]) rs :=
  h.confirm now (keeps_reconcile (h.reflects a).kept now (count a)) (by simp)

/-- An account gets a ledger, which is brought up to date at once. -/
theorem Rebuilt.seed (h : g.Rebuilt count as rs) (now : Timestamp) (a : Address) :
    ((g.ensureLedger a).reconcile now a (count a)).1.Rebuilt count (as ++ [a]) rs := by
  have hkept := (h.reflects a).kept
  have hconfirm := keeps_reconcile (kept_ensureLedger hkept) now (count a)
  exact h.confirm now ((keeps_ensureLedger hkept).trans hconfirm) (by simp)

/-- The nonce of a live record of an account with a ledger is claimed. If it is confirmed or held
already, it stays as it is. -/
theorem Rebuilt.claim (h : g.Rebuilt count as rs) {r : Record} (hlive : r.isLive = true)
    (hnonce : ∀ r' ∈ rs ++ [r], r'.isLive = true → r'.nonce < Ledger.lastNonce)
    (hc : g.ledgers.contains r.account = true) :
    ∃ t result, g.obtain r.account (.named r.nonce) = (t, some result) ∧
      t.Rebuilt count as (rs ++ [r]) ∧ t.watchlist = g.watchlist ∧
      ((∃ n, result = .ok n) ∨
        ∃ message, result = .error (.nonceTaken r.account r.nonce message)) := by
  have hl := h.reflects r.account
  have hs := h.seeded r.account hc
  obtain ⟨t, result, hgot, hkeeps, hanswer, -⟩ := obtain_refines hl.kept hs (.named r.nonce)
  rw [hl.book_eq hs, deedOf, ← Book.ofRecords_append hlive] at hkeeps
  have hsteady := g.spares_obtain r.account (.named r.nonce)
  have hseeded := g.seeded_obtain r.account (.named r.nonce)
  rw [hgot] at hsteady hseeded
  refine ⟨t, result, hgot, ?_, hsteady.watchlist_eq, ?_⟩
  · have hkept := hkeeps.kept (Book.hasRoom_ofRecords hnonce)
    apply h.update hkeeps (hseeded.trans hs) (.of_book hkept hkeeps.book_eq)
    · intro o ho
      exact Book.ofRecords_append_of_not fun hr => ho hr.2.symm
    · exact isKnown_append_live hlive as rs
  · cases result with
    | ok n => exact .inl ⟨n, rfl⟩
    | error e =>
        right
        simp only [deedOf, Book.perform] at hanswer
        split at hanswer
        · cases hanswer
        · cases hanswer
          exact ⟨_, rfl⟩

end Gateway

end TxGateway
