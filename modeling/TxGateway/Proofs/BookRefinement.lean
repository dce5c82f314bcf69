import TxGateway.Proofs.LedgerBook
import TxGateway.Proofs.Tally
import TxGateway.Proofs.Turn

/-!
# What is asked about nonces, in terms of the book

The ledgers of a run are ordered. As long as the greatest nonce is never pending for an account its
ledger is also kept, and so described by its book. What can be asked about the nonces of an account
is written down on books, and the operations of a gateway on one account are shown to do to its book
what is written, and nothing to any other account.
-/

namespace TxGateway

namespace Ledger

/-- A ledger described by a book: all that it holds about nonces is read off the book. -/
structure Follows (l : Ledger) (b : Book) : Prop where
  /-- The floor is the confirmed count. -/
  confirmed_eq : l.confirmed = b.floor
  /-- The pending nonces are those that are handed out, in ascending order. -/
  pending_eq : l.pending = b.held.sort
  /-- The next nonce is at the floor, or follows the greatest one that is handed out. -/
  next_eq : l.next = max b.floor (b.held.sup Nat.succ)
  /-- What is handed out is not used up. -/
  floor_le : ∀ n ∈ b.held, b.floor ≤ n

theorem Kept.follows {l : Ledger} (h : l.Kept) : l.Follows l.book where
  confirmed_eq := rfl
  pending_eq := by
    have hsort := l.pending.toFinset_sort (r := (· ≤ ·)) (h.ascending.imp Nat.ne_of_lt)
    exact (hsort.mpr (h.ascending.imp Nat.le_of_lt)).symm
  next_eq := h.next_eq
  floor_le := by simpa using h.floor_le

/-- A ledger that has never been brought up to date hands out the first count that it is told. -/
theorem Kept.raise_free {l : Ledger} (h : l.Kept) (hs : l.seeded = false) (count : Nat) :
    (l.book.raise count).free = count := by
  apply (l.book.raise count).isLeast_free.unique
  simp only [h.untouched hs, book, Book.raise, List.toFinset_nil, Finset.filter_empty,
    Nat.zero_max, Finset.notMem_empty, not_false_eq_true, and_true]
  exact isLeast_Ici

/-- A turn leaves a ledger in order. -/
theorem Ordered.turn {l : Ledger} (h : l.Ordered) (now : Timestamp) (t : Turn) :
    (t.apply now l).Ordered := by
  cases t with
  | confirm count => exact h.confirm now count
  | obtain choice =>
      by_cases hs : l.seeded = true
      · cases choice with
        | next => simpa [Turn.apply, hs, handOut_eq] using h.issue hs l.upcoming
        | named n =>
            cases hc : l.claim n with
            | ok t =>
                obtain ⟨-, rfl⟩ := eq_of_claim hc
                simpa [Turn.apply, hs, hc] using h.issue hs n
            | error refusal => simpa [Turn.apply, hs, hc] using h
      · simpa [Turn.apply, hs] using h
  | giveBack n =>
      cases hg : l.giveBack? n with
      | none => simpa [Turn.apply, hg] using h
      | some t => simpa [Turn.apply, hg] using h.giveBack hg
  | expire => exact h.expire

/-- A turn keeps a ledger, as long as there is room. -/
theorem Kept.turn {l : Ledger} (h : l.Kept) (now : Timestamp) (t : Turn)
    (hroom : (t.apply now l).HasRoom) : (t.apply now l).Kept := by
  cases t with
  | confirm count => exact (h.confirm now count).1
  | obtain choice =>
      by_cases hs : l.seeded = true
      · cases choice with
        | next =>
            simp only [Turn.apply, hs, Bool.not_true, Bool.false_eq_true, if_false] at hroom ⊢
            exact h.handOut hs hroom
        | named n =>
            cases hc : l.claim n with
            | ok t =>
                simp only [Turn.apply, hs, hc, Bool.not_true, Bool.false_eq_true, if_false]
                  at hroom ⊢
                exact h.claim hs hc hroom
            | error refusal => simpa [Turn.apply, hs, hc] using h
      · simpa [Turn.apply, hs] using h
  | giveBack n =>
      cases hg : l.giveBack? n with
      | none => simpa [Turn.apply, hg] using h
      | some t => simpa [Turn.apply, hg] using (h.giveBack hg).1
  | expire => exact h.expire.1

end Ledger

namespace System

/-- A moment leaves the ledger of an account as it is, or gives somebody a turn at it. -/
theorem ledger_pass_cases (p : Policy) (s : System) (m : Moment) (a : Address) :
    (s.pass p m).gateway.ledger a = s.gateway.ledger a ∨
      ∃ t : Turn, (s.pass p m).gateway.ledger a = t.apply m.now (s.gateway.ledger a) := by
  rw [ledger_pass]
  cases s.turn? m with
  | none => exact .inl rfl
  | some turn =>
      obtain ⟨b, t⟩ := turn
      rw [Gateway.afterTurn_some]
      split
      · rename_i hab
        exact .inr ⟨t, hab ▸ rfl⟩
      · exact .inl rfl

/-- The ledgers of a run are in order. -/
theorem ordered_after (p : Policy) (ms : List Moment) (a : Address) :
    ((after p ms).gateway.ledger a).Ordered := by
  apply after_induction (P := fun s => (s.gateway.ledger a).Ordered) ms Ledger.ordered_empty
  intro m _ s h
  rcases ledger_pass_cases p s m a with hsame | ⟨t, hturn⟩
  · exact hsame ▸ h
  · exact hturn ▸ h.turn m.now t

theorem kept_pass (p : Policy) {s : System} {a : Address} (h : (s.gateway.ledger a).Kept)
    (m : Moment) (hroom : ((s.pass p m).gateway.ledger a).HasRoom) :
    ((s.pass p m).gateway.ledger a).Kept := by
  rcases ledger_pass_cases p s m a with hsame | ⟨t, hturn⟩
  · exact hsame ▸ h
  · rw [hturn] at hroom ⊢
    exact h.turn m.now t hroom

/-- In a run the greatest nonce is never pending for an account. -/
def LeavesRoom (p : Policy) (ms : List Moment) (a : Address) : Prop :=
  ∀ k, ((upTo p ms k).gateway.ledger a).HasRoom

theorem leavesRoom_of_length {p : Policy} {ms : List Moment} {a : Address}
    (h : ∀ k ≤ ms.length, ((upTo p ms k).gateway.ledger a).HasRoom) : LeavesRoom p ms a := by
  intro k
  rcases Nat.le_total k ms.length with hk | hk
  · exact h k hk
  · have hlast := h ms.length le_rfl
    rw [upTo, List.take_length] at hlast
    rwa [upTo, List.take_of_length_le hk]

/-- As long as there is room the ledger of an account is kept. -/
theorem LeavesRoom.kept {p : Policy} {ms : List Moment} {a : Address} (h : LeavesRoom p ms a)
    (k : Nat) : ((upTo p ms k).gateway.ledger a).Kept := by
  refine upTo_induction_fresh (P := fun s => (s.gateway.ledger a).Kept) Ledger.kept_empty ?_ k
  intro k m hm hk
  have hroom := h (k + 1)
  rw [upTo_succ hm] at hroom ⊢
  exact kept_pass p hk m hroom

theorem LeavesRoom.kept_after {p : Policy} {ms : List Moment} {a : Address}
    (h : LeavesRoom p ms a) : ((after p ms).gateway.ledger a).Kept :=
  upTo_length p ms ▸ h.kept ms.length

theorem LeavesRoom.take {p : Policy} {ms : List Moment} {a : Address} (h : LeavesRoom p ms a)
    (k : Nat) : LeavesRoom p (ms.take k) a := by
  intro j
  rw [upTo, List.take_take]
  exact h (min j k)

end System

namespace Book

/-- What can be asked about the nonces of an account. -/
inductive Deed
  /-- A nonce to be chosen. -/
  | allocate
  /-- A nonce that is named. -/
  | claim (n : Nat)
  /-- A nonce is given back. -/
  | release (n : Nat)
  /-- The chain tells a confirmed count. -/
  | reconcile (count : Nat)
  /-- The chain has to be asked before the next submission. -/
  | invalidate
  /-- The nonce that would be chosen. -/
  | current

/-- The task by which it is asked. -/
def Deed.task (a : Address) : Deed → Task
  | allocate => .obtain a .next
  | claim n => .obtain a (.named n)
  | release n => .giveBack a n
  | reconcile _ => .reconcile a
  | invalidate => .expire a
  | current => .currentNonce a

/-- The answers that the task waits for: turns at the ledger if there is one, and what the chain
tells if the ledger has never been brought up to date. -/
def Deed.replies (known seeded : Bool) (count : Nat) : Deed → List Reply
  | allocate | claim _ => if seeded then [.done] else [.done, .count count, .done, .done]
  | release _ | invalidate => if known then [.done] else []
  | reconcile count => [.count count, .done]
  | current =>
    if seeded then [.done] else if known then [.done, .count count] else [.count count]

/-- What it does to the book of an account, and the answer. -/
def perform (a : Address) (b : Book) : Deed → Book × Ending Outcome
  | .allocate => (b.hold b.free, .ofValue (.nonce b.free))
  | .claim n =>
    if b.floor ≤ n ∧ n ∉ b.held then (b.hold n, .ofValue .done)
    else (b, .returned (.error (.nonceTaken a n (b.refusal n).message)))
  | .release n => (b.drop n, .ofValue .done)
  | .reconcile count => (b.raise count, .ofValue (.nonce (b.raise count).ceiling))
  | .invalidate => (b, .ofValue .done)
  | .current => (b, .ofValue (.nonce b.free))

/-- The same for an account whose ledger has never been brought up to date. A nonce is handed out
after the chain has told a count; what would be handed out is told without taking the count in. -/
def performFirst (a : Address) (known : Bool) (count : Nat) (b : Book) :
    Deed → Book × Ending Outcome
  | .allocate => (b.raise count).perform a .allocate
  | .claim n => (b.raise count).perform a (.claim n)
  | .release _ =>
    (b, if known then .ofValue .done else .returned (.error (.unknownAccount a)))
  | .current => (b, ((b.raise count).perform a .current).2)
  | deed => b.perform a deed

/-- The same for an account of either kind. -/
def execute (a : Address) (known seeded : Bool) (count : Nat) (b : Book) (d : Deed) :
    Book × Ending Outcome :=
  if seeded then b.perform a d else b.performFirst a known count d

/-- What a turn at the ledger does to the book. -/
def take (b : Book) (seeded : Bool) : Turn → Book
  | .confirm count => b.raise count
  | .obtain .next => if seeded then b.hold b.free else b
  | .obtain (.named n) => if seeded ∧ b.floor ≤ n ∧ n ∉ b.held then b.hold n else b
  | .giveBack n => b.drop n
  | .expire => b

/-- What the turn of a moment, if there is one, does to the book of an account. -/
def takeAt (a : Address) (b : Book) (seeded : Bool) : Option (Address × Turn) → Book
  | none => b
  | some (o, t) => if a = o then b.take seeded t else b

end Book

/-- A turn does to the book what is written there. -/
theorem Ledger.Kept.book_turn {l : Ledger} (h : l.Kept) (now : Timestamp) (t : Turn) :
    (t.apply now l).book = l.book.take l.seeded t := by
  cases t with
  | confirm count => exact (h.confirm now count).2
  | obtain choice =>
      by_cases hs : l.seeded = true
      · cases choice with
        | next => simpa [Turn.apply, Book.take, hs] using h.book_handOut
        | named n =>
            by_cases hfree : l.book.floor ≤ n ∧ n ∉ l.book.held
            · have hc := l.claim_eq n
              rw [if_pos hfree] at hc
              simp only [Turn.apply, Book.take, hs, hc, hfree, not_false_eq_true, and_self, if_true]
              exact l.book_issue n
            · have hc := l.claim_eq n
              rw [if_neg hfree] at hc
              simp only [Turn.apply, Book.take, hs, hc, hfree, and_false, if_false]
              rfl
      · cases choice with
        | next => simp [Turn.apply, Book.take, hs]
        | named n => simp [Turn.apply, Book.take, hs]
  | giveBack n =>
      cases hg : l.giveBack? n with
      | none =>
          have hn := (giveBack?_eq_none_iff l n).mp hg
          simp only [Turn.apply, Book.take, Book.drop, hg, Option.getD_none,
            Finset.erase_eq_of_notMem hn]
      | some t => simpa [Turn.apply, Book.take, hg] using (h.giveBack hg).2
  | expire => rfl

/-- A moment does to the book of an account what its turn does. -/
theorem System.book_pass (p : Policy) (s : System) (m : Moment) {a : Address}
    (h : (s.gateway.ledger a).Kept) :
    ((s.pass p m).gateway.ledger a).book =
      (s.gateway.ledger a).book.takeAt a (s.gateway.ledger a).seeded (s.turn? m) := by
  rw [ledger_pass]
  cases s.turn? m with
  | none => rfl
  | some turn =>
      obtain ⟨o, t⟩ := turn
      by_cases hao : a = o
      · subst hao
        simp only [Gateway.afterTurn_some, Book.takeAt, if_true]
        exact h.book_turn m.now t
      · simp only [Gateway.afterTurn_some, Book.takeAt, if_neg hao]

namespace Gateway

/-- A gateway after something has happened to one account: its ledger keeps a book, and the entries
of all other accounts are what they were. -/
structure Keeps (g t : Gateway) (a : Address) (b : Book) : Prop where
  /-- The ledger of the account is kept as long as there is room. -/
  kept : b.HasRoom → (t.ledger a).Kept
  /-- The ledger of the account holds the book. -/
  book_eq : (t.ledger a).book = b
  /-- Nothing has happened to any other account. -/
  others : ∀ o, o ≠ a → t.ledgers.get? o = g.ledgers.get? o

variable {g t u : Gateway} {a : Address} {b c : Book}

theorem Keeps.trans (h : g.Keeps t a b) (k : t.Keeps u a c) : g.Keeps u a c where
  kept := k.kept
  book_eq := k.book_eq
  others := fun o ho => (k.others o ho).trans (h.others o ho)

theorem Keeps.refl (h : (g.ledger a).Kept) : g.Keeps g a (g.ledger a).book :=
  ⟨fun _ => h, rfl, fun _ _ => rfl⟩

theorem kept_ensureLedger (h : (g.ledger a).Kept) : ((g.ensureLedger a).ledger a).Kept := by
  simpa using h

theorem kept_reconcile (h : (g.ledger a).Kept) (now : Timestamp) (count : Nat) :
    ((g.reconcile now a count).1.ledger a).Kept := by
  simpa using (h.confirm now count).1

theorem keeps_ensureLedger (h : (g.ledger a).Kept) :
    g.Keeps (g.ensureLedger a) a (g.ledger a).book where
  kept := fun _ => kept_ensureLedger h
  book_eq := by simp
  others := (g.spares_ensureLedger a).others

theorem keeps_reconcile (h : (g.ledger a).Kept) (now : Timestamp) (count : Nat) :
    g.Keeps (g.reconcile now a count).1 a ((g.ledger a).book.raise count) where
  kept := fun _ => kept_reconcile h now count
  book_eq := by simpa using (h.confirm now count).2
  others := (g.spares_reconcile a now count).others

/-- After a turn the ledger holds the book that the turn makes. -/
theorem keeps_turn (h : (g.ledger a).Kept) (turn : Turn)
    (hledger : t.ledger a = turn.apply ⟨0⟩ (g.ledger a))
    (hothers : ∀ o, o ≠ a → t.ledgers.get? o = g.ledgers.get? o) :
    g.Keeps t a ((g.ledger a).book.take (g.ledger a).seeded turn) where
  kept := by
    intro hroom
    rw [← h.book_turn ⟨0⟩, Ledger.hasRoom_book] at hroom
    exact hledger ▸ h.turn ⟨0⟩ turn hroom
  book_eq := by rw [hledger, h.book_turn]
  others := hothers

theorem keeps_obtain (h : (g.ledger a).Kept) (choice : NonceChoice) :
    g.Keeps (g.obtain a choice).1 a
      ((g.ledger a).book.take (g.ledger a).seeded (.obtain choice)) :=
  keeps_turn h (.obtain choice) (by simp [g.ledger_obtain ⟨0⟩]) (g.spares_obtain a choice).others

theorem keeps_giveBack (h : (g.ledger a).Kept) (n : Nat) :
    g.Keeps (g.giveBack a n).1 a ((g.ledger a).book.drop n) :=
  keeps_turn h (.giveBack n) (by simp [Turn.apply]) (g.spares_giveBack a n).others

theorem keeps_expire (h : (g.ledger a).Kept) : g.Keeps (g.expire a) a (g.ledger a).book :=
  keeps_turn h .expire (by simp [Turn.apply]) (g.spares_expire a).others

/-- The deed of asking for a nonce. -/
def deedOf : NonceChoice → Book.Deed
  | .next => .allocate
  | .named n => .claim n

/-- Asking a ledger that has been brought up to date for a nonce does and answers what its book
says. If the nonce is refused, no ledger has changed. -/
theorem obtain_refines (h : (g.ledger a).Kept) (hs : (g.ledger a).seeded = true)
    (choice : NonceChoice) :
    let e := (g.ledger a).book.perform a (deedOf choice)
    ∃ t result, g.obtain a choice = (t, some result) ∧ g.Keeps t a e.1 ∧
      Ending.ofResult (Call.nonceOutcome choice) result = e.2 ∧
      (∀ failure, e.2 = .returned (.error failure) → t.ledgers = g.ledgers) := by
  have hkeeps := keeps_obtain h choice
  rw [hs] at hkeeps
  cases choice with
  | next =>
      have hgot : g.obtain a .next = ((g.obtain a .next).1, some (.ok (g.ledger a).book.free)) := by
        rw [obtain, hs]
        simp only [Bool.not_true, Bool.false_eq_true, if_false, h.handOut_fst]
      exact ⟨_, _, hgot, hkeeps, rfl, fun failure hf => by cases hf⟩
  | named n =>
      have hclaim := (g.ledger a).claim_eq n
      by_cases hfree : (g.ledger a).book.floor ≤ n ∧ n ∉ (g.ledger a).book.held
      · rw [if_pos hfree] at hclaim
        have hgot : g.obtain a (.named n) = ((g.obtain a (.named n)).1, some (.ok n)) := by
          rw [obtain, hs]
          simp only [Bool.not_true, Bool.false_eq_true, if_false, hclaim]
        simp only [deedOf, Book.perform, Book.take, hfree, not_false_eq_true, and_self,
          if_true] at hkeeps ⊢
        exact ⟨_, _, hgot, hkeeps, rfl, fun failure hf => by cases hf⟩
      · rw [if_neg hfree] at hclaim
        have hgot : g.obtain a (.named n) = (g.measure (·.nonceCollision),
            some (.error (.nonceTaken a n ((g.ledger a).book.refusal n).message))) := by
          rw [obtain, hs]
          simp only [Bool.not_true, Bool.false_eq_true, if_false, hclaim]
        have htaken : ¬ (True ∧ (g.ledger a).book.floor ≤ n ∧ n ∉ (g.ledger a).book.held) :=
          fun hf => hfree hf.2
        rw [hgot] at hkeeps
        simp only [deedOf, Book.perform, Book.take, if_neg hfree, if_neg htaken] at hkeeps ⊢
        exact ⟨_, _, hgot, hkeeps, rfl, fun _ _ => rfl⟩

end Gateway

end TxGateway
