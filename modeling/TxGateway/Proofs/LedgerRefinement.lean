import TxGateway.Proofs.BookRefinement
import TxGateway.Proofs.LoneCall

/-!
# Ledgers refine their books

Whatever else has happened to a gateway, as long as the greatest nonce has never been pending for an
account its ledger is described by its book, and each task about it does and answers what the book
says: the least free nonce is handed out, a claim succeeds exactly on a free nonce, giving back
removes a nonce, and a confirmed count raises the floor.
-/

namespace TxGateway

namespace System

variable (p : Policy) (now : Timestamp) (s : System) (a : Address)

/-- A task that has been carried out as the book says: the ledger of the account keeps the new book,
the call ends as it should, and nothing else has changed. -/
structure Executed (t : System) (ending : Option (Ending Outcome)) (e : Book × Ending Outcome) :
    Prop where
  /-- What has become of the ledgers. -/
  keeps : s.gateway.Keeps t.gateway a e.1
  /-- How the call has ended. -/
  ending_eq : ending = some e.2
  /-- A ledger that has been brought up to date is not touched by a refusal. -/
  refused : ∀ failure, (s.gateway.ledger a).seeded = true →
    e.2 = .returned (.error failure) → t.gateway.ledgers = s.gateway.ledgers

/-- Getting a nonce, whether it is chosen or named. -/
theorem executed_obtain (h : (s.gateway.ledger a).Kept) (choice : NonceChoice) (count : Nat) :
    let l := s.gateway.ledger a
    let known := s.gateway.ledgers.contains a
    let d := Gateway.deedOf choice
    let r := s.carryOut p now (d.task a) (d.replies known l.seeded count)
    s.Executed a r.1 r.2 (l.book.execute a known l.seeded count d) := by
  intro l known d r
  have htask : d.task a = .obtain a choice := by cases choice <;> rfl
  cases hs : (s.gateway.ledger a).seeded with
  | true =>
      obtain ⟨t, result, hgot, hkeeps, hend, hrefused⟩ := Gateway.obtain_refines h hs choice
      have hreplies : d.replies known l.seeded count = [.done] := by
        cases choice <;> simp [d, l, Gateway.deedOf, Book.Deed.replies, hs]
      have hrun := s.carryOut_obtain p now a choice hs hgot
      simp only [r, htask, hreplies, Book.execute, if_true]
      refine ⟨?_, ?_, ?_⟩
      · rw [hrun.1]
        exact hkeeps
      · rw [hrun.2, hend]
      · intro failure _ hf
        rw [hrun.1]
        exact hrefused failure hf
  | false =>
      -- The account gets a ledger, a count is taken in, and then the nonce is asked for again.
      have hfirst := Gateway.keeps_ensureLedger h
      have hkept := Gateway.kept_ensureLedger h
      have hraised := hfirst.trans (Gateway.keeps_reconcile hkept now count)
      rw [hfirst.book_eq] at hraised
      have hseeded :
          ((((s.gateway.ensureLedger a).reconcile now a count).1).ledger a).seeded = true := by
        simp only [Gateway.ledger_reconcile, if_true, Gateway.ledger_ensureLedger,
          h.confirm_eq now count]
      obtain ⟨t, result, hgot, hkeeps, hend, -⟩ :=
        Gateway.obtain_refines (Gateway.kept_reconcile hkept now count) hseeded choice
      rw [hraised.book_eq] at hkeeps hend
      have hreplies :
          d.replies known l.seeded count = [.done, .count count, .done, .done] := by
        cases choice <;> simp [d, l, Gateway.deedOf, Book.Deed.replies, hs]
      have hfirstly : l.book.performFirst a known count d = (l.book.raise count).perform a d := by
        cases choice <;> rfl
      have hrun := s.carryOut_obtain_first p now a choice count hs hgot
      simp only [r, htask, hreplies, Book.execute, Bool.false_eq_true, if_false, hfirstly]
      refine ⟨?_, ?_, ?_⟩
      · rw [hrun.1]
        exact hraised.trans hkeeps
      · rw [hrun.2, hend]
      · intro failure hcontra
        rw [hs] at hcontra
        cases hcontra

/-- Whatever is asked about the nonces of an account, it is carried out as its book says. -/
theorem executed (h : (s.gateway.ledger a).Kept) (d : Book.Deed) (count : Nat) :
    let l := s.gateway.ledger a
    let known := s.gateway.ledgers.contains a
    let r := s.carryOut p now (d.task a) (d.replies known l.seeded count)
    s.Executed a r.1 r.2 (l.book.execute a known l.seeded count d) := by
  intro l known r
  cases d with
  | allocate => exact s.executed_obtain p now a h .next count
  | claim n => exact s.executed_obtain p now a h (.named n) count
  | reconcile told =>
      have hrun := s.carryOut_reconcile p now a told
      have hdeed : l.book.execute a known l.seeded count (.reconcile told) =
          (l.book.raise told, .ofValue (.nonce (l.book.raise told).ceiling)) := by
        simp [Book.execute, Book.performFirst, Book.perform]
      have hnext : (l.confirm now told).next = (l.book.raise told).ceiling := by
        rw [(h.confirm now told).1.next_eq, (h.confirm now told).2]
      rw [hdeed]
      refine ⟨?_, ?_, fun failure _ hf => by cases hf⟩
      · rw [show r.1.gateway = _ from hrun.1]
        exact Gateway.keeps_reconcile h now told
      · rw [show r.2 = _ from hrun.2, hnext]
  | release n =>
      have hrun := s.carryOut_giveBack p now a n
      have hkeeps := Gateway.keeps_giveBack h n
      cases hs : l.seeded with
      | true =>
          have hknown : known = true := s.gateway.contains_of_seeded a hs
          refine ⟨?_, ?_, fun failure _ hf => by cases hf⟩
          · rw [show r.1.gateway = _ from hrun.1]
            exact hkeeps
          · rw [show r.2 = _ from hrun.2, show s.gateway.ledgers.contains a = true from hknown]
            rfl
      | false =>
          -- An empty ledger has nothing to give back.
          have hdrop : l.book.drop n = l.book := by
            simp [h.untouched hs, l, Ledger.book, Book.drop]
          rw [show (s.gateway.ledger a).book.drop n = _ from hdrop] at hkeeps
          refine ⟨?_, hrun.2, fun failure hf => ?_⟩
          · rw [show r.1.gateway = _ from hrun.1]
            exact hkeeps
          · rw [show (s.gateway.ledger a).seeded = false from hs] at hf
            cases hf
  | invalidate =>
      have hrun := s.carryOut_expire p now a
      have hdeed :
          l.book.execute a known l.seeded count .invalidate = (l.book, .ofValue .done) := by
        simp [Book.execute, Book.performFirst, Book.perform]
      rw [hdeed]
      refine ⟨?_, hrun.2, fun failure _ hf => by cases hf⟩
      rw [show r.1.gateway = _ from hrun.1]
      exact Gateway.keeps_expire h
  | current =>
      have hrun := s.carryOut_currentNonce p now a count
      have hbook : (l.book.execute a known l.seeded count .current).1 = l.book := by
        simp only [Book.execute]
        split <;> rfl
      have hend : (l.book.execute a known l.seeded count .current).2 =
          .ofValue (.nonce (if l.seeded then l.upcoming else count)) := by
        cases hs : l.seeded with
        | true => simp [Book.execute, Book.perform, h.upcoming_eq, l]
        | false =>
            simp [Book.execute, Book.performFirst, Book.perform, h.raise_free hs, l]
      refine ⟨?_, ?_, fun failure _ hf => ?_⟩
      · rw [show r.1.gateway = _ from hrun.1, hbook]
        exact Gateway.Keeps.refl h
      · rw [hend]
        exact hrun.2
      · rw [hend] at hf
        cases hf

/-- As long as the greatest nonce is not pending, the ledger of an account is described by its book
after every run. Each task that is carried out on its own does to the book what it says, gives the
answer that the book gives, and leaves all other accounts alone; each turn that a call gets in
between others does the same to the book. -/
theorem ledger_refines_book (ms : List Moment) (hroom : LeavesRoom p ms a) :
    let s := after p ms
    let l := s.gateway.ledger a
    let known := s.gateway.ledgers.contains a
    l.Follows l.book ∧ (l.seeded = false → l = {}) ∧
      (∀ now (d : Book.Deed) count,
        let r := s.carryOut p now (d.task a) (d.replies known l.seeded count)
        let e := l.book.execute a known l.seeded count d
        (e.1.HasRoom → (r.1.gateway.ledger a).Follows e.1) ∧ r.2 = some e.2 ∧
          (∀ o, o ≠ a → r.1.gateway.ledgers.get? o = s.gateway.ledgers.get? o) ∧
          (d = .current → r.1.gateway = s.gateway) ∧
          ∀ failure, l.seeded = true → e.2 = .returned (.error failure) →
            r.1.gateway.ledgers = s.gateway.ledgers) ∧
      ∀ m, let b := l.book.takeAt a l.seeded (s.turn? m)
        b.HasRoom → ((s.pass p m).gateway.ledger a).Follows b := by
  intro s l known
  have h : l.Kept := hroom.kept_after
  refine ⟨h.follows, h.untouched, ?_, ?_⟩
  · intro now d count r e
    have hrun := s.executed p now a h d count
    refine ⟨fun hleft => ?_, hrun.ending_eq, hrun.keeps.others, ?_, hrun.refused⟩
    · rw [← hrun.keeps.book_eq]
      exact (hrun.keeps.kept hleft).follows
    · rintro rfl
      exact (s.carryOut_currentNonce p now a count).1
  · intro m b hleft
    have hbook : ((s.pass p m).gateway.ledger a).book = b := s.book_pass p m h
    rw [← hbook, Ledger.hasRoom_book] at hleft
    exact hbook ▸ (kept_pass p h m hleft).follows

/-- A run in which a fresh account is told the count 5 and nonce 5 is handed out. -/
def firstNonceRun (a : Address) : List Moment :=
  [.start (.obtain a .next), .reply 0 0 .done, .reply 0 0 (.count 5), .reply 0 0 .done,
    .reply 0 0 .done].map fun e => ⟨⟨0⟩, .event e⟩

/-- After that run nonce 7 can be claimed: the ledger then goes on at 8. -/
theorem seven_claimed :
    LeavesRoom {} (firstNonceRun ⟨0⟩) ⟨0⟩ ∧
      let r := (after {} (firstNonceRun ⟨0⟩)).carryOut {} ⟨0⟩ (.obtain ⟨0⟩ (.named 7)) [.done]
      (r.1.gateway.ledger ⟨0⟩).Follows ⟨5, {7, 5}⟩ ∧ r.2 = some (.ofValue .done) := by
  have hroom : LeavesRoom {} (firstNonceRun ⟨0⟩) ⟨0⟩ := leavesRoom_of_length (by decide)
  refine ⟨hroom, ?_⟩
  obtain ⟨hfollows, hanswer, -⟩ :=
    (ledger_refines_book {} ⟨0⟩ (firstNonceRun ⟨0⟩) hroom).2.2.1 ⟨0⟩ (.claim 7) 0
  exact ⟨hfollows (by decide), hanswer⟩

end System

end TxGateway
