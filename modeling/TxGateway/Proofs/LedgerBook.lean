import TxGateway.Proofs.Nonces

/-!
# A ledger keeps its book

The list of pending nonces is always ascending, and a ledger that has never been brought up to date
is empty. A kept ledger holds exactly its book: what is pending lies above the floor, and the next
nonce is the ceiling.
Each operation on a kept ledger does to the book what its name says, and gives a kept ledger as long
as there is room: the nonce after the greatest one is 0 and no ceiling any more.
-/

namespace TxGateway

/-- Whether every nonce that is handed out is followed by one. -/
def Book.HasRoom (b : Book) : Prop := ∀ n ∈ b.held, n < Ledger.lastNonce

instance (b : Book) : Decidable b.HasRoom :=
  inferInstanceAs (Decidable (∀ n ∈ b.held, n < Ledger.lastNonce))

/-- Why a nonce is not free. -/
def Book.refusal (b : Book) (n : Nat) : Ledger.Refusal :=
  if n < b.floor then .confirmed b.floor else .pending

namespace Ledger

/-- What a ledger amounts to. -/
def book (l : Ledger) : Book := ⟨l.confirmed, l.pending.toFinset⟩

/-- What is so of a ledger whatever has been handed out. -/
structure Ordered (l : Ledger) : Prop where
  /-- The pending nonces are ascending. -/
  ascending : l.pending.Pairwise (· < ·)
  /-- A ledger that has never been brought up to date is empty. -/
  untouched : l.seeded = false → l = {}

/-- A ledger that holds its book and nothing beside it. -/
structure Kept (l : Ledger) : Prop extends Ordered l where
  /-- No pending nonce is confirmed. -/
  floor_le : ∀ n ∈ l.pending, l.confirmed ≤ n
  /-- The next nonce is the confirmed count, or follows the greatest pending nonce. -/
  next_eq : l.next = l.book.ceiling

@[simp] theorem mem_book (l : Ledger) (n : Nat) : n ∈ l.book.held ↔ n ∈ l.pending := by
  simp [book]

@[simp] theorem floor_book (l : Ledger) : l.book.floor = l.confirmed := rfl

theorem ordered_empty : Ordered {} where
  ascending := List.Pairwise.nil
  untouched := fun _ => rfl

theorem kept_empty : Kept {} where
  toOrdered := ordered_empty
  floor_le := by simp
  next_eq := rfl

/-- The nonce that would be handed out is the free one of the book. -/
theorem Kept.upcoming_eq {l : Ledger} (h : l.Kept) : l.upcoming = l.book.free := by
  have hfirst : firstFree l.confirmed l.pending = l.book.free := by
    apply (firstFree_isLeast l.confirmed l.pending h.ascending).unique
    simpa only [floor_book, mem_book] using l.book.isLeast_free
  have hle := l.book.free_le_ceiling
  rw [← h.next_eq] at hle
  simp only [upcoming, lowestHole?, hfirst]
  by_cases hlt : l.book.free < l.next
  · simp [hlt]
  · simp only [hlt, if_false, Option.getD_none]
    omega

/-- Whether every pending nonce is followed by one: the greatest nonce is not pending. -/
def HasRoom (l : Ledger) : Prop := ∀ n ∈ l.pending, n < lastNonce

instance (l : Ledger) : Decidable l.HasRoom :=
  inferInstanceAs (Decidable (∀ n ∈ l.pending, n < lastNonce))

@[simp] theorem hasRoom_book (l : Ledger) : l.book.HasRoom ↔ l.HasRoom := by
  simp [Book.HasRoom, HasRoom]

theorem following_eq {n : Nat} (h : n < lastNonce) : following n = n + 1 := by
  simp only [lastNonce] at h
  exact Nat.mod_eq_of_lt (by omega)

/-- A ledger after a nonce has been handed out, whichever it is. -/
def issue (l : Ledger) (n : Nat) : Ledger :=
  { l with
    pending := insertAscending n l.pending
    next := if l.next ≤ n then following n else l.next }

@[simp] theorem seeded_issue (l : Ledger) (n : Nat) : (l.issue n).seeded = l.seeded := rfl

@[simp] theorem confirmed_issue (l : Ledger) (n : Nat) : (l.issue n).confirmed = l.confirmed := rfl

@[simp] theorem mem_pending_issue (l : Ledger) (n m : Nat) :
    m ∈ (l.issue n).pending ↔ m = n ∨ m ∈ l.pending :=
  mem_insertAscending n l.pending m

@[simp] theorem book_issue (l : Ledger) (n : Nat) : (l.issue n).book = l.book.hold n := by
  ext m
  · rfl
  · simp [book, Book.hold]

theorem next_issue (l : Ledger) {n : Nat} (h : n < lastNonce) :
    (l.issue n).next = max l.next (n + 1) := by
  simp only [issue, following_eq h]
  split <;> omega

theorem HasRoom.lt_of_issue {l : Ledger} {n : Nat} (h : (l.issue n).HasRoom) : n < lastNonce :=
  h n ((l.mem_pending_issue n n).mpr (.inl rfl))

/-- The nonce that would be handed out now is handed out, be it a hole or the next one. -/
theorem handOut_eq (l : Ledger) : l.handOut = (l.upcoming, l.issue l.upcoming) := by
  cases hhole : l.lowestHole? with
  | some n =>
      have hlt : n < l.next := by
        simp only [lowestHole?] at hhole
        split at hhole
        · cases hhole
          assumption
        · cases hhole
      simp only [handOut, upcoming, issue, hhole, Option.getD_some, if_neg (not_le.mpr hlt)]
  | none => simp only [handOut, upcoming, issue, hhole, Option.getD_none, le_refl, if_true]

theorem Ordered.issue {l : Ledger} (h : l.Ordered) (hs : l.seeded = true) (n : Nat) :
    (l.issue n).Ordered where
  ascending := pairwise_insertAscending n l.pending h.ascending
  untouched := fun hf => absurd hf (by simp [hs])

/-- A kept ledger stays one when a free nonce is handed out that is not the greatest. -/
theorem Kept.issue {l : Ledger} (h : l.Kept) (hs : l.seeded = true) {n : Nat}
    (hn : l.confirmed ≤ n) (hlast : n < lastNonce) : (l.issue n).Kept where
  toOrdered := h.toOrdered.issue hs n
  floor_le := by
    intro m hm
    rcases (l.mem_pending_issue n m).mp hm with rfl | hm
    · exact hn
    · exact h.floor_le m hm
  next_eq := by
    rw [book_issue, Book.ceiling_hold, ← h.next_eq, next_issue l hlast]

theorem Kept.handOut {l : Ledger} (h : l.Kept) (hs : l.seeded = true)
    (hroom : l.handOut.2.HasRoom) : l.handOut.2.Kept := by
  rw [handOut_eq] at hroom ⊢
  refine h.issue hs ?_ hroom.lt_of_issue
  rw [h.upcoming_eq]
  exact l.book.floor_le_free

/-- The free nonce of the book is handed out. -/
theorem Kept.handOut_fst {l : Ledger} (h : l.Kept) : l.handOut.1 = l.book.free := by
  rw [handOut_eq, h.upcoming_eq]

theorem Kept.book_handOut {l : Ledger} (h : l.Kept) :
    l.handOut.2.book = l.book.hold l.book.free := by
  rw [handOut_eq, book_issue, h.upcoming_eq]

/-- A claim succeeds exactly if the nonce is neither confirmed nor pending. -/
theorem claim_eq (l : Ledger) (n : Nat) :
    l.claim n =
      if l.book.floor ≤ n ∧ n ∉ l.book.held then .ok (l.issue n)
      else .error (l.book.refusal n) := by
  simp only [floor_book, mem_book]
  by_cases hlt : n < l.confirmed
  · simp [claim, Book.refusal, hlt]
  · by_cases hmem : n ∈ l.pending
    · simp [claim, Book.refusal, hlt, hmem]
    · simp [claim, issue, hlt, hmem, not_lt.mp hlt]

/-- What is claimed was free, and is handed out. -/
theorem eq_of_claim {l t : Ledger} {n : Nat} (hc : l.claim n = .ok t) :
    (l.book.floor ≤ n ∧ n ∉ l.book.held) ∧ t = l.issue n := by
  rw [claim_eq] at hc
  split at hc
  · cases hc
    exact ⟨‹_›, rfl⟩
  · cases hc

theorem Kept.claim {l t : Ledger} (h : l.Kept) (hs : l.seeded = true) {n : Nat}
    (hc : l.claim n = .ok t) (hroom : t.HasRoom) : t.Kept := by
  obtain ⟨hfree, rfl⟩ := eq_of_claim hc
  exact h.issue hs hfree.1 hroom.lt_of_issue

theorem giveBack?_eq_none_iff (l : Ledger) (n : Nat) : l.giveBack? n = none ↔ n ∉ l.book.held := by
  simp [giveBack?]

/-- What is given back was pending, and is not pending any more. -/
theorem eq_of_giveBack? {l t : Ledger} {n : Nat} (hg : l.giveBack? n = some t) :
    n ∈ l.pending ∧ t = { l with
      pending := l.pending.filter (· ≠ n)
      next := rollBack l.confirmed (l.pending.filter (· ≠ n)) l.next } := by
  by_cases hn : n ∈ l.pending
  · simp only [giveBack?, hn, if_true, Option.some.injEq] at hg
    exact ⟨hn, hg.symm⟩
  · simp [giveBack?, hn] at hg

theorem Ordered.giveBack {l t : Ledger} (h : l.Ordered) {n : Nat} (hg : l.giveBack? n = some t) :
    t.Ordered := by
  obtain ⟨hn, rfl⟩ := eq_of_giveBack? hg
  refine ⟨h.ascending.filter _, fun hf => ?_⟩
  rw [h.untouched hf] at hn
  exact absurd hn List.not_mem_nil

/-- Giving a pending nonce back drops it from the book. -/
theorem book_giveBack {l t : Ledger} {n : Nat} (hg : l.giveBack? n = some t) :
    t.book = l.book.drop n := by
  obtain ⟨-, rfl⟩ := eq_of_giveBack? hg
  ext m
  · rfl
  · simp [book, Book.drop, and_comm]

/-- The roll back ends at the ceiling. -/
theorem Kept.giveBack {l t : Ledger} (h : l.Kept) {n : Nat} (hg : l.giveBack? n = some t) :
    t.Kept ∧ t.book = l.book.drop n := by
  have hbook := book_giveBack hg
  refine ⟨⟨h.toOrdered.giveBack hg, ?_, ?_⟩, hbook⟩
  · obtain ⟨-, rfl⟩ := eq_of_giveBack? hg
    intro m hm
    exact h.floor_le m (List.mem_of_mem_filter hm)
  · have hfloor : l.confirmed ≤ l.next := h.next_eq ▸ l.book.floor_le_ceiling
    have hlt : ∀ m ∈ l.pending.filter (· ≠ n), m < l.next := by
      intro m hm
      rw [h.next_eq]
      exact l.book.lt_ceiling ((mem_book l m).mpr (List.mem_of_mem_filter hm))
    rw [hbook]
    obtain ⟨-, rfl⟩ := eq_of_giveBack? hg
    apply (rollBack_isLeast l.confirmed _ l.next hfloor hlt).unique
    simpa [Book.drop, and_comm] using (l.book.drop n).isLeast_ceiling

/-- A confirmed count does the same whether it is news or not, and whether it is the first. -/
theorem Kept.confirm_eq {l : Ledger} (h : l.Kept) (now : Timestamp) (count : Nat) :
    l.confirm now count =
      { next := max l.next count
        pending := l.pending.filter (max l.confirmed count ≤ ·)
        confirmed := max l.confirmed count
        refreshedAt := some now
        seeded := true } := by
  by_cases hle : count ≤ l.confirmed
  · have hnext : count ≤ l.next := by
      rw [h.next_eq]
      exact hle.trans l.book.floor_le_ceiling
    have hpending : l.pending.filter (l.confirmed ≤ ·) = l.pending := by
      apply List.filter_eq_self.mpr
      simpa using h.floor_le
    simp [Ledger.confirm, hle, hnext, hpending]
  · have hlt := (not_le.mp hle).le
    by_cases hs : l.seeded = true
    · simp [Ledger.confirm, hle, hlt, hs]
    · simp [Ledger.confirm, hle, hlt, hs]

theorem Ordered.confirm {l : Ledger} (h : l.Ordered) (now : Timestamp) (count : Nat) :
    (l.confirm now count).Ordered := by
  by_cases hle : count ≤ l.confirmed
  · exact ⟨by simpa [Ledger.confirm, hle] using h.ascending, by simp [Ledger.confirm, hle]⟩
  · refine ⟨?_, by simp [Ledger.confirm, hle]⟩
    simpa only [Ledger.confirm, hle, if_false] using h.ascending.filter _

/-- A confirmed count raises the book. -/
theorem Kept.confirm {l : Ledger} (h : l.Kept) (now : Timestamp) (count : Nat) :
    (l.confirm now count).Kept ∧ (l.confirm now count).book = l.book.raise count := by
  have hbook : (l.confirm now count).book = l.book.raise count := by
    rw [h.confirm_eq now count]
    ext m
    · rfl
    · simp [Book.raise]
  refine ⟨⟨h.toOrdered.confirm now count, ?_, ?_⟩, hbook⟩
  · rw [h.confirm_eq now count]
    intro n hn
    simpa using (List.mem_filter.mp hn).2
  · rw [hbook, Book.ceiling_raise, ← h.next_eq, h.confirm_eq now count]

theorem Ordered.expire {l : Ledger} (h : l.Ordered) : l.expire.Ordered := by
  refine ⟨h.ascending, fun hf => ?_⟩
  have hl := h.untouched hf
  subst hl
  rfl

theorem Kept.expire {l : Ledger} (h : l.Kept) : l.expire.Kept ∧ l.expire.book = l.book :=
  ⟨⟨h.toOrdered.expire, h.floor_le, h.next_eq⟩, rfl⟩

end Ledger

end TxGateway
