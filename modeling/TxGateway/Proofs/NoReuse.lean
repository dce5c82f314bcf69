import TxGateway.Proofs.BookRefinement
import Mathlib.Tactic.IntervalCases

/-!
# No nonce is handed out twice

A nonce is secured from the moment at which it is handed out: either it is pending, or the chain has
used it up. Only giving it back while it is pending ends that, so a nonce that is handed out again
has been given back in between, whatever the calls of a run have done in whatever order. The one
exception is a ledger whose greatest nonce has been handed out: it begins again at 0.
-/

namespace TxGateway

namespace Book

/-- Whether a nonce cannot be handed out. -/
def Secures (b : Book) (n : Nat) : Prop := n ∈ b.held ∨ n < b.floor

theorem not_secures_iff (b : Book) (n : Nat) : ¬ b.Secures n ↔ b.floor ≤ n ∧ n ∉ b.held := by
  simp only [Secures, not_or, not_lt, and_comm]

variable {b : Book} {n : Nat}

theorem Secures.hold (h : b.Secures n) (m : Nat) : (b.hold m).Secures n := by
  rcases h with h | h
  · exact .inl (Finset.mem_insert_of_mem h)
  · exact .inr h

/-- A pending nonce stays pending when a count comes in, or it is used up by it. -/
theorem Secures.raise (h : b.Secures n) (count : Nat) : (b.raise count).Secures n := by
  by_cases hused : n < max b.floor count
  · exact .inr hused
  · rcases h with h | h
    · exact .inl (Finset.mem_filter.mpr ⟨h, not_lt.mp hused⟩)
    · exact absurd (h.trans_le (le_max_left _ _)) hused

theorem Secures.drop (h : b.Secures n) {m : Nat} (hm : m = n → n ∉ b.held) :
    (b.drop m).Secures n := by
  rcases h with h | h
  · exact .inl (Finset.mem_erase.mpr ⟨fun heq => hm heq.symm h, h⟩)
  · exact .inr h

/-- A secured nonce stays secured, unless it is pending and the turn gives it back. -/
theorem Secures.take (h : b.Secures n) (seeded : Bool) {t : Turn}
    (ht : t = .giveBack n → n ∉ b.held) : (b.take seeded t).Secures n := by
  cases t with
  | confirm count => exact h.raise count
  | obtain choice =>
      cases choice with
      | next =>
          simp only [Book.take]
          split
          · exact h.hold _
          · exact h
      | named m =>
          simp only [Book.take]
          split
          · exact h.hold _
          · exact h
  | giveBack m => exact h.drop fun heq => ht (by rw [heq])
  | expire => exact h

theorem floor_le_take (b : Book) (seeded : Bool) (t : Turn) :
    b.floor ≤ (b.take seeded t).floor := by
  cases t with
  | confirm count => exact le_max_left _ _
  | obtain choice => cases choice <;> simp only [Book.take] <;> split <;> exact le_rfl
  | giveBack m => exact le_rfl
  | expire => exact le_rfl

theorem floor_le_takeAt (a : Address) (b : Book) (seeded : Bool) (t : Option (Address × Turn)) :
    b.floor ≤ (b.takeAt a seeded t).floor := by
  cases t with
  | none => exact le_rfl
  | some turn =>
      simp only [takeAt]
      split
      · exact b.floor_le_take seeded turn.2
      · exact le_rfl

end Book

/-- What a ledger gives is a free nonce, and its book holds it afterwards. -/
theorem Ledger.Kept.book_obtain {g : Gateway} {a : Address} {choice : NonceChoice} {n : Nat}
    (h : (g.ledger a).Kept) (hgot : (g.obtain a choice).2 = some (.ok n)) :
    ((g.ledger a).book.floor ≤ n ∧ n ∉ (g.ledger a).book.held) ∧
      (g.ledger a).book.take (g.ledger a).seeded (.obtain choice) = (g.ledger a).book.hold n := by
  cases hs : (g.ledger a).seeded with
  | false => simp [Gateway.obtain, hs] at hgot
  | true =>
      cases choice with
      | next =>
          simp only [Gateway.obtain, hs, h.handOut_fst, Bool.not_true, Bool.false_eq_true,
            if_false, Option.some.injEq, Except.ok.injEq] at hgot
          subst hgot
          exact ⟨(g.ledger a).book.isLeast_free.1, rfl⟩
      | named k =>
          have hclaim := (g.ledger a).claim_eq k
          by_cases hfree : (g.ledger a).book.floor ≤ k ∧ k ∉ (g.ledger a).book.held
          · rw [if_pos hfree] at hclaim
            simp only [Gateway.obtain, hs, hclaim, Bool.not_true, Bool.false_eq_true, if_false,
              Option.some.injEq, Except.ok.injEq] at hgot
            subst hgot
            exact ⟨hfree, if_pos ⟨rfl, hfree⟩⟩
          · rw [if_neg hfree] at hclaim
            simp [Gateway.obtain, hs, hclaim] at hgot

namespace System

/-- At a moment of a run something happens, given the system before it and the moment. -/
def At (p : Policy) (ms : List Moment) (k : Nat) (happens : System → Moment → Prop) : Prop :=
  ∃ m, ms[k]? = some m ∧ happens (upTo p ms k) m

/-- A nonce of an account is handed out, whether it is chosen or named. -/
def HandsOut (a : Address) (n : Nat) (s : System) (m : Moment) : Prop :=
  ∃ choice, s.turn? m = some (a, .obtain choice) ∧
    (s.gateway.obtain a choice).2 = some (.ok n)

/-- A pending nonce of an account is given back, and is not pending any more. -/
def TakesBack (p : Policy) (a : Address) (n : Nat) (s : System) (m : Moment) : Prop :=
  s.turn? m = some (a, .giveBack n) ∧ n ∈ s.gateway.pendingNonces a ∧
    n ∉ (s.pass p m).gateway.pendingNonces a

/-- A count that the chain has told at some time is taken into the ledger of an account. -/
def TakesIn (a : Address) (count : Nat) (s : System) (m : Moment) : Prop :=
  s.turn? m = some (a, .confirm count)

/-- The book of an account. -/
def book (s : System) (a : Address) : Book := (s.gateway.ledger a).book

section

variable {p : Policy} {s : System} {m : Moment} {a : Address} {n count : Nat}

theorem floor_le_pass (h : (s.gateway.ledger a).Kept) :
    (s.book a).floor ≤ ((s.pass p m).book a).floor := by
  rw [book, book, book_pass p s m h]
  exact Book.floor_le_takeAt _ _ _ _

theorem TakesIn.count_le (ht : TakesIn a count s m) (h : (s.gateway.ledger a).Kept) :
    count ≤ ((s.pass p m).book a).floor := by
  rw [book, book_pass p s m h, ht, Book.takeAt, if_pos rfl]
  exact le_max_right _ count

/-- A call for a nonce that returns without a failure returns what is handed out at that moment. -/
theorem handsOut_of_returned {now : Timestamp} {i slot : Nat} {reply : Reply} {choice : NonceChoice}
    {stage : Obtain} {o : Outcome} (hcall : s.calls.get? i = some (.obtain a choice stage))
    (hend : (s.step p now (.reply i slot reply)).2.ending = some (.ofValue o)) :
    ∃ n, HandsOut a n s ⟨now, .event (.reply i slot reply)⟩ ∧ o = Call.nonceOutcome choice n := by
  cases stage with
  | turn =>
      cases reply with
      | done =>
          cases hgot : s.gateway.obtain a choice with
          | mk g result =>
              cases result with
              | none =>
                  simp [step, System.reply, hcall, Call.resume, Call.proceed, Obtain.resume, hgot,
                    Progress.map] at hend
              | some result =>
                  simp only [step, System.reply, hcall, Call.resume, Call.proceed, Obtain.resume,
                    hgot, Progress.map, Ending.ofResult, Ending.ofValue, Option.some.injEq,
                    Ending.returned.injEq] at hend
                  cases result with
                  | error e => cases hend
                  | ok n =>
                      cases hend
                      exact ⟨n, ⟨choice, by simp [turn?, hcall, Call.turn?, Call.turnOf?,
                        Obtain.turn?], by rw [hgot]⟩, rfl⟩
      | crashed crash =>
          simp [step, System.reply, hcall, Call.resume, Call.looksOutward, Call.queries,
            Obtain.query, Query.isOutward] at hend
      | _ =>
          simp [step, System.reply, hcall, Call.resume, Call.proceed, Obtain.resume,
            Progress.map] at hend
  | seeding r =>
      -- While the ledger is brought up to date the call goes on, or it fails.
      cases r with
      | asking =>
          cases reply with
          | crashed crash =>
              by_cases hslot : 0 = slot <;>
                simp [step, System.reply, hcall, Call.resume, Call.looksOutward, Call.queries,
                  Obtain.query, Reconcile.query, Query.isOutward, hslot, Ending.ofValue] at hend
          | _ =>
              simp [step, System.reply, hcall, Call.resume, Call.proceed, Obtain.resume,
                Reconcile.resume, Progress.map, Ending.ofResult, Ending.ofValue,
                Except.map] at hend
      | applying count =>
          cases reply <;>
            simp [step, System.reply, hcall, Call.resume, Call.proceed, Obtain.resume,
              Reconcile.resume, Progress.map, Call.looksOutward, Call.queries, Obtain.query,
              Reconcile.query, Query.isOutward] at hend

/-- A nonce is handed out only if it is not secured, and it is secured by it. -/
theorem HandsOut.secures (ho : HandsOut a n s m) (h : (s.gateway.ledger a).Kept) :
    ¬ (s.book a).Secures n ∧ ((s.pass p m).book a).Secures n := by
  obtain ⟨choice, hturn, hgot⟩ := ho
  obtain ⟨hfree, hbook⟩ := h.book_obtain hgot
  rw [Book.not_secures_iff, book, book, book_pass p s m h, hturn, Book.takeAt, if_pos rfl, hbook]
  refine ⟨hfree, ?_⟩
  exact .inl (Finset.mem_insert_self n _)

/-- A secured nonce stays secured, unless it is taken back. -/
theorem secures_pass (h : (s.gateway.ledger a).Kept) (hn : (s.book a).Secures n)
    (hback : ¬ TakesBack p a n s m) : ((s.pass p m).book a).Secures n := by
  by_contra hlost
  apply hback
  have hgone : n ∉ (s.pass p m).gateway.pendingNonces a := by
    intro hmem
    exact hlost (.inl ((Ledger.mem_book _ n).mpr hmem))
  rw [book, book_pass p s m h] at hlost
  cases hturn : s.turn? m with
  | none =>
      rw [hturn] at hlost
      exact absurd hn hlost
  | some turn =>
      obtain ⟨o, t⟩ := turn
      rw [hturn] at hlost
      by_cases hao : a = o
      · subst hao
        rw [Book.takeAt, if_pos rfl] at hlost
        have hgiven : ¬ (t = .giveBack n → n ∉ (s.book a).held) := fun ht =>
          hlost (hn.take (s.gateway.ledger a).seeded ht)
        obtain ⟨rfl, hmem⟩ := Classical.not_imp.mp hgiven
        exact ⟨hturn, (Ledger.mem_book _ n).mp (not_not.mp hmem), hgone⟩
      · rw [Book.takeAt, if_neg hao] at hlost
        exact absurd hn hlost

end

/-- A run in which a fresh account is told the count 5, nonce 5 is handed out, given back, and
handed out again. -/
def handBackRun (a : Address) : List Moment :=
  [.start (.obtain a .next), .reply 0 0 .done, .reply 0 0 (.count 5), .reply 0 0 .done,
    .reply 0 0 .done, .start (.giveBack a 5), .reply 1 0 .done, .start (.obtain a .next),
    .reply 2 0 .done].map fun e => ⟨⟨0⟩, .event e⟩

/-- A run in which a fresh account is told a count and hands out a nonce, the greatest one, which is
claimed, and another one. -/
def roundRun (a : Address) (count : Nat) : List Moment :=
  [.start (.obtain a .next), .reply 0 0 .done, .reply 0 0 (.count count), .reply 0 0 .done,
    .reply 0 0 .done, .start (.obtain a (.named Ledger.lastNonce)), .reply 1 0 .done,
    .start (.obtain a .next), .reply 2 0 .done].map fun e => ⟨⟨0⟩, .event e⟩

end System

end TxGateway
