import TxGateway.Proofs.CatchingUp

/-!
# What a submission undoes

Giving back the nonce that has been got last restores the ledger as it was, whether the nonce has
filled a hole, has come after all others, or was named far ahead, as long as it is not the greatest.
So at each of its stages a submission that runs with nothing else in between has done nothing to the
ledger of its account but take in a count, or giving its nonce back undoes what it has done.
-/

namespace TxGateway

namespace Ledger

/-- Kept ledgers differ in their books, in the time of the last question, or in whether there was
one. -/
theorem Kept.eq_of_book {l t : Ledger} (hl : l.Kept) (ht : t.Kept) (hbook : t.book = l.book)
    (hrefreshed : t.refreshedAt = l.refreshedAt) (hseeded : t.seeded = l.seeded) : t = l := by
  have hpending : t.pending = l.pending := by
    rw [ht.follows.pending_eq, hl.follows.pending_eq, hbook]
  have hnext : t.next = l.next := by rw [ht.next_eq, hl.next_eq, hbook]
  have hconfirmed : t.confirmed = l.confirmed := congrArg Book.floor hbook
  cases l
  cases t
  simp only at hpending hnext hconfirmed hrefreshed hseeded
  subst hpending hnext hconfirmed hrefreshed hseeded
  rfl

/-- Giving back a nonce that has just been got restores the ledger, unless it is the greatest. -/
theorem Kept.giveBack_issue {l : Ledger} (h : l.Kept) (hs : l.seeded = true) {n : Nat}
    (hn : l.confirmed ≤ n) (hfree : n ∉ l.pending) (hlast : n < lastNonce) :
    (l.issue n).giveBack? n = some l := by
  cases hback : (l.issue n).giveBack? n with
  | none =>
      rw [giveBack?_eq_none_iff, book_issue] at hback
      exact absurd (Finset.mem_insert_self n _) hback
  | some t =>
      obtain ⟨hkept, hbook⟩ := (h.issue hs hn hlast).giveBack hback
      have hsame : t.book = l.book := by
        rw [hbook, book_issue, Book.hold, Book.drop]
        rw [Finset.erase_insert (by rwa [mem_book])]
      have hrest : t.refreshedAt = l.refreshedAt ∧ t.seeded = l.seeded := by
        obtain ⟨-, rfl⟩ := eq_of_giveBack? hback
        exact ⟨rfl, rfl⟩
      rw [h.eq_of_book hkept hsame hrest.1 hrest.2]

/-- A ledger that is not stale has been brought up to date. -/
theorem Kept.seeded_of_fresh {l : Ledger} (h : l.Kept) {now : Timestamp} {maxAge : Duration}
    (hfresh : l.isStale now maxAge = false) : l.seeded = true := by
  cases hs : l.seeded with
  | true => rfl
  | false =>
      rw [h.untouched hs] at hfresh
      cases hfresh

theorem seeded_confirm (l : Ledger) (now : Timestamp) (count : Nat) :
    (l.confirm now count).seeded = true := by
  simp only [confirm]
  split <;> rfl

end Ledger

namespace Gateway

/-- The same transactions are watched, and at most the ledger of one account differs. -/
structure Confined (g g' : Gateway) (a : Address) : Prop where
  /-- The same transactions are watched. -/
  watchlist_eq : g'.watchlist = g.watchlist
  /-- The other accounts have the same ledgers, or none as before. -/
  others : ∀ b, b ≠ a → g'.ledgers.get? b = g.ledgers.get? b

variable {g g' g'' : Gateway} {a : Address}

theorem Confined.refl (g : Gateway) (a : Address) : g.Confined g a := ⟨rfl, fun _ _ => rfl⟩

theorem Confined.trans (h : g.Confined g' a) (h' : g'.Confined g'' a) : g.Confined g'' a :=
  ⟨h'.watchlist_eq.trans h.watchlist_eq, fun b hb => (h'.others b hb).trans (h.others b hb)⟩

theorem Spares.confined (h : g.Spares g' a) : g.Confined g' a := ⟨h.watchlist_eq, h.others⟩

/-- A nonce that is got is entered in the ledger of its account. -/
theorem get?_obtain {choice : NonceChoice} {n : Nat} (hgot : (g.obtain a choice).2 = some (.ok n)) :
    (g.obtain a choice).1.ledgers.get? a = some ((g.ledger a).issue n) := by
  cases hs : (g.ledger a).seeded with
  | false => simp [obtain, hs] at hgot
  | true =>
      cases choice with
      | next =>
          obtain rfl : (g.ledger a).upcoming = n := by
            simpa [obtain, hs, Ledger.handOut_eq] using hgot
          simp [obtain, hs, Ledger.handOut_eq, measure, setLedger]
      | named k =>
          cases hclaim : (g.ledger a).claim k with
          | ok l =>
              obtain ⟨-, rfl⟩ := Ledger.eq_of_claim hclaim
              obtain rfl : k = n := by simpa [obtain, hs, hclaim] using hgot
              simp [obtain, hs, hclaim, measure, setLedger]
          | error refusal => simp [obtain, hs, hclaim] at hgot

/-- Giving back a nonce that has just been got restores the ledger of its account. -/
theorem giveBack?_of_obtain {choice : NonceChoice} {n : Nat} (h : (g.ledger a).Kept)
    (hgot : (g.obtain a choice).2 = some (.ok n)) (hlast : n < Ledger.lastNonce) :
    g.ledgers.get? a = some (g.ledger a) ∧ ((g.ledger a).issue n).giveBack? n =
      some (g.ledger a) := by
  obtain ⟨⟨hfloor, hfree⟩, -⟩ := h.book_obtain hgot
  rw [Ledger.mem_book] at hfree
  cases hs : (g.ledger a).seeded with
  | false => simp [obtain, hs] at hgot
  | true =>
      refine ⟨?_, h.giveBack_issue hs hfloor hfree hlast⟩
      have hcontains := g.contains_of_seeded a hs
      simp only [Table.contains, Option.isSome_iff_exists] at hcontains
      obtain ⟨l, hl⟩ := hcontains
      rw [hl, g.ledger_of_get? a hl]

/-- A ledger that has been brought up to date gives a nonce or refuses one, and a refusal leaves all
ledgers as they are. -/
theorem obtain_of_seeded (choice : NonceChoice) (hs : (g.ledger a).seeded = true) :
    (∃ n, (g.obtain a choice).2 = some (.ok n)) ∨
      ∃ e, (g.obtain a choice).2 = some (.error e) ∧ (g.obtain a choice).1.ledgers = g.ledgers := by
  cases choice with
  | next => exact .inl ⟨(g.ledger a).handOut.1, by simp [obtain, hs]⟩
  | named n =>
      cases hclaim : (g.ledger a).claim n with
      | ok l => exact .inl ⟨n, by simp [obtain, hs, hclaim]⟩
      | error refusal =>
          refine .inr ⟨.nonceTaken a n refusal.message, ?_, ?_⟩ <;>
            simp [obtain, hs, hclaim, measure]

/-- What a nonce is given back to is stored as the ledger of its account. -/
theorem get?_giveBack {n : Nat} {l l' : Ledger} (hget : g.ledgers.get? a = some l)
    (hback : l.giveBack? n = some l') : (g.giveBack a n).1.ledgers.get? a = some l' := by
  simp [giveBack, hget, hback, measure, setLedger]

end Gateway

/-- A failure after which the node may have the transaction, or which tells of a broken promise. -/
def Failure.IsUnclear : Failure → Prop
  | network operation _ | timeout operation => operation = "broadcast"
  | violation _ => True
  | _ => False

namespace Submit

/-- Giving a nonce back turns an entry for an account into another one. -/
def Reverts (n : Nat) (entry now : Option Ledger) : Prop :=
  ∃ l l', entry = some l ∧ now = some l' ∧ l'.giveBack? n = some l

/-- What a submission that stands somewhere has done to the entry of its account: nothing, or it has
got a nonce, and giving that back restores the entry. From the end of its broadcast on it restores
nothing. -/
def Stage.Restores (entry now : Option Ledger) : Stage → Prop
  | aging | refreshing _ => now = entry
  | noting | obtaining .turn => now = entry ∧ ∃ l, entry = some l ∧ l.seeded = true
  | obtaining (.seeding _) => False
  | pricing n | signing n _ | returning n _ => Reverts n entry now
  | broadcasting sent _ => Reverts sent.nonce entry now
  | holding .. | saving .. => False

/-- Whether a submission has not got beyond its look at the age of the ledger. -/
def Stage.isEarly : Stage → Bool
  | aging | refreshing _ => true
  | _ => false

/-- The broadcast has ended without a refusal, and the submission says so if it fails. -/
def Stage.IsInDoubt : Stage → Prop
  | holding _ e => e.IsUnclear
  | saving .. => True
  | _ => False

/-- A submission whose broadcast has ended without a refusal goes on, or fails unclearly, or does
not fail. -/
def EndsInDoubt : Progress Submit (Ending Submission) → Prop
  | .waiting c => c.stage.IsInDoubt
  | .ended (.returned (.error e)) => e.IsUnclear
  | .ended _ => True

/-- What a submission does that has left no trace so far. A count that it takes in makes the entry
that it is to restore. -/
inductive Goes (entry : Option Ledger) (c : Submit) (g : Gateway) (counts : Prop) :
    Gateway × Progress Submit (Ending Submission) → Prop
  /-- It goes on. -/
  | waits {g' : Gateway} {c' : Submit} {entry' : Option Ledger}
      (confined : g.Confined g' c.request.account) (request_eq : c'.request = c.request)
      (told : counts → entry' = g'.ledgers.get? c.request.account)
      (untold : ¬ counts → entry' = entry)
      (early : c'.stage.isEarly = true → c.stage.isEarly = true ∧ ¬ counts)
      (restores : c'.stage.Restores entry' (g'.ledgers.get? c.request.account)) :
      Goes entry c g counts (g', .waiting c')
  /-- It fails, and has restored the entry. -/
  | fails {g' : Gateway} {e : Failure} (confined : g.Confined g' c.request.account)
      (restored : g'.ledgers.get? c.request.account = entry) (uncounted : ¬ counts) :
      Goes entry c g counts (g', .ended (.returned (.error e)))
  /-- It breaks off. -/
  | crashes {g' : Gateway} {crash : Crash} : Goes entry c g counts (g', .ended (.crashed crash))

/-- A submission takes a count in. -/
def Counts (c : Submit) (reply : Reply) : Prop :=
  ∃ count, c.turn? reply = some (c.request.account, .confirm count)

section

variable {entry : Option Ledger} {g : Gateway} {c c' : Submit} {p : Policy} {now : Timestamp}
  {reply : Reply}

/-- A step that changes nothing but the stage. -/
theorem Goes.keep (hrequest : c'.request = c.request) (hcounts : ¬ c.Counts reply)
    (hearly : c'.stage.isEarly = true → c.stage.isEarly = true)
    (hrestores : c'.stage.Restores entry (g.ledgers.get? c.request.account)) :
    Goes entry c g (c.Counts reply) (g, .waiting c') :=
  .waits (.refl g _) hrequest (fun h => absurd h hcounts) (fun _ => rfl)
    (fun h => ⟨hearly h, hcounts⟩) hrestores

/-- A submission that does nothing with an answer waits for what it has waited for. -/
theorem Goes.stay (h : c.stage.Restores entry (g.ledgers.get? c.request.account))
    (hcounts : ¬ c.Counts reply) : Goes entry c g (c.Counts reply) (g, .waiting c) :=
  .keep rfl hcounts id h

theorem Goes.toObtain {l : Ledger} (hentry : entry = some l) (hs : l.seeded = true)
    (hnow : g.ledgers.get? c.request.account = entry) (hcounts : ¬ c.Counts reply) :
    Goes entry c g (c.Counts reply) (Submit.toObtain c.request g) := by
  have hcontains : g.ledgers.contains c.request.account = true := by
    rw [Table.contains, hnow, hentry]
    rfl
  have hstay : Submit.toObtain c.request g = (g, .waiting ⟨c.request, .obtaining .turn⟩) := by
    simp only [Submit.toObtain, Obtain.start, g.ensureLedger_of_contains _ hcontains]
  rw [hstay]
  exact .keep rfl hcounts (fun h => by cases h) ⟨hnow, l, hentry, hs⟩

/-- A submission whose broadcast has ended in the dark goes on to store its transaction, or fails
unclearly. -/
theorem endsInDoubt_hold {sent : Record} {e : Failure} (he : e.IsUnclear) :
    EndsInDoubt (hold g c sent e).2 := by
  simp only [hold]
  split
  · exact he
  · exact he

/-- A submission in doubt stays in doubt. -/
theorem endsInDoubt_resume (h : c.stage.IsInDoubt) : EndsInDoubt (c.resume p now g reply).2 := by
  obtain ⟨request, stage⟩ := c
  cases stage with
  | holding r e => cases reply <;> exact h
  | saving submission r => cases reply <;> trivial
  | _ => exact h.elim

section

variable {request : Request}

/-- A ledger that is not old leads on to a nonce, and an old one to the question for the count. -/
theorem goes_aging (p : Policy) (now : Timestamp) (hkept : (g.ledger request.account).Kept)
    (h : g.ledgers.get? request.account = entry) :
    Goes entry ⟨request, .aging⟩ g (Counts ⟨request, .aging⟩ reply)
      (resume p now g ⟨request, .aging⟩ reply) := by
  have hcounts : ¬ (⟨request, .aging⟩ : Submit).Counts reply := by
    cases reply <;> simp [Counts, turn?]
  cases reply with
  | done =>
      simp only [resume]
      split
      · exact .keep rfl hcounts (fun _ => rfl) h
      · rename_i hfresh
        cases hget : g.ledgers.get? request.account with
        | none => simp [Gateway.needsReconcile, hget] at hfresh
        | some l =>
            obtain rfl : g.ledger request.account = l := g.ledger_of_get? _ hget
            have hage : (g.ledger request.account).isStale now p.staleAfter = false := by
              simpa [Gateway.needsReconcile, hget] using hfresh
            exact Goes.toObtain (c := ⟨request, .aging⟩) (h.symm.trans hget)
              (hkept.seeded_of_fresh hage) h hcounts
  | _ => exact .stay h hcounts

/-- A count that is taken in makes the entry that is to be restored from then on. -/
theorem goes_refreshing (p : Policy) (now : Timestamp) {r : Reconcile}
    (h : g.ledgers.get? request.account = entry) :
    Goes entry ⟨request, .refreshing r⟩ g (Counts ⟨request, .refreshing r⟩ reply)
      (resume p now g ⟨request, .refreshing r⟩ reply) := by
  cases r with
  | asking =>
      have hcounts : ¬ (⟨request, .refreshing .asking⟩ : Submit).Counts reply := by
        simp [Counts, turn?, Reconcile.turn?]
      cases reply with
      | count n => exact .keep rfl hcounts (fun _ => rfl) h
      | failed e => exact .fails (.refl g _) h hcounts
      | _ => exact .stay h hcounts
  | applying count =>
      cases reply with
      | done =>
          have hget : (g.reconcile now request.account count).1.ledgers.get? request.account =
              some ((g.ledger request.account).confirm now count) := by
            simp [Gateway.reconcile, Gateway.measure, Gateway.setLedger]
          refine .waits (g.spares_reconcile request.account now count).confined rfl
            (fun _ => rfl) (fun hno => absurd ⟨count, rfl⟩ hno) (fun hearly => by cases hearly)
            ⟨rfl, _, hget, Ledger.seeded_confirm _ now count⟩
      | _ => exact .stay h (by simp [Counts, turn?, Reconcile.turn?])

/-- Whether the account is remembered or not, a nonce is got next. -/
theorem goes_noting (p : Policy) (now : Timestamp) (hnow : g.ledgers.get? request.account = entry)
    {l : Ledger} (hentry : entry = some l) (hs : l.seeded = true) :
    Goes entry ⟨request, .noting⟩ g (Counts ⟨request, .noting⟩ reply)
      (resume p now g ⟨request, .noting⟩ reply) := by
  have hcounts : ¬ (⟨request, .noting⟩ : Submit).Counts reply := by simp [Counts, turn?]
  cases reply with
  | done => exact Goes.toObtain (c := ⟨request, .noting⟩) hentry hs hnow hcounts
  | failed e => exact Goes.toObtain (c := ⟨request, .noting⟩) hentry hs hnow hcounts
  | _ => exact .stay ⟨hnow, l, hentry, hs⟩ hcounts

/-- The nonce that is got can be given back, unless it is the greatest; without one the submission
fails, and has done nothing. -/
theorem goes_obtaining (p : Policy) (now : Timestamp) (hkept : (g.ledger request.account).Kept)
    (hnow : g.ledgers.get? request.account = entry) {l : Ledger} (hentry : entry = some l)
    (hs : l.seeded = true)
    (hroom : (g.afterTurn now ((⟨request, .obtaining .turn⟩ : Submit).turn? reply)
      request.account).HasRoom) :
    Goes entry ⟨request, .obtaining .turn⟩ g (Counts ⟨request, .obtaining .turn⟩ reply)
      (resume p now g ⟨request, .obtaining .turn⟩ reply) := by
  have hcounts : ¬ (⟨request, .obtaining .turn⟩ : Submit).Counts reply := by
    cases reply <;> simp [Counts, turn?, Obtain.turn?]
  cases reply with
  | done =>
      have hseeded : (g.ledger request.account).seeded = true := by
        rwa [g.ledger_of_get? request.account (hnow.trans hentry)]
      have hconfined := (g.spares_obtain request.account request.choice).confined
      rcases Gateway.obtain_of_seeded request.choice hseeded with
        ⟨n, hgot⟩ | ⟨e, hgot, hledgers⟩
      · have hafter := Gateway.get?_obtain hgot
        have hledger : g.afterTurn now (some (request.account, .obtain request.choice))
            request.account = (g.ledger request.account).issue n := by
          rw [Gateway.afterTurn_some, if_pos rfl, ← Gateway.ledger_of_get? _ _ hafter]
          simp [g.ledger_obtain now]
        have hlast : n < Ledger.lastNonce := (hledger ▸ hroom :).lt_of_issue
        obtain ⟨hbefore, hback⟩ := Gateway.giveBack?_of_obtain hkept hgot hlast
        obtain ⟨g', hstep⟩ : ∃ g', g.obtain request.account request.choice =
            (g', some (.ok n)) := ⟨_, Prod.ext rfl hgot⟩
        rw [hstep] at hconfined hafter
        simp only [resume, Obtain.resume, hstep]
        exact .waits hconfined rfl (fun hc => absurd hc hcounts) (fun _ => rfl)
          (fun hearly => by cases hearly) ⟨_, _, hnow ▸ hbefore, hafter, hback⟩
      · obtain ⟨g', hstep⟩ : ∃ g', g.obtain request.account request.choice =
            (g', some (.error e)) := ⟨_, Prod.ext rfl hgot⟩
        rw [hstep] at hconfined hledgers
        simp only [resume, Obtain.resume, hstep, fail]
        exact .fails hconfined (by rw [hledgers]; exact hnow) hcounts
  | _ => exact .stay ⟨hnow, l, hentry, hs⟩ hcounts

theorem goes_pricing (p : Policy) (now : Timestamp) {n : Nat}
    (h : Reverts n entry (g.ledgers.get? request.account)) :
    Goes entry ⟨request, .pricing n⟩ g (Counts ⟨request, .pricing n⟩ reply)
      (resume p now g ⟨request, .pricing n⟩ reply) := by
  have hcounts : ¬ (⟨request, .pricing n⟩ : Submit).Counts reply := by simp [Counts, turn?]
  cases reply with
  | price price =>
      simp only [resume]
      split
      · exact .keep rfl hcounts id h
      · exact .crashes
  | failed e => exact .keep rfl hcounts (fun hearly => by cases hearly) h
  | _ => exact .stay h hcounts

theorem goes_signing (p : Policy) (now : Timestamp) {n : Nat} {price : Price}
    (h : Reverts n entry (g.ledgers.get? request.account)) :
    Goes entry ⟨request, .signing n price⟩ g (Counts ⟨request, .signing n price⟩ reply)
      (resume p now g ⟨request, .signing n price⟩ reply) := by
  have hcounts : ¬ (⟨request, .signing n price⟩ : Submit).Counts reply := by simp [Counts, turn?]
  cases reply with
  | signed raw =>
      exact .waits ⟨rfl, fun _ _ => rfl⟩ rfl (fun hc => absurd hc hcounts) (fun _ => rfl)
        (fun hearly => by cases hearly) h
  | failed e => exact .keep rfl hcounts (fun hearly => by cases hearly) h
  | _ => exact .stay h hcounts

/-- An outright refusal leads on to the nonce being given back, and any other end of the broadcast
leaves the submission in doubt. -/
theorem goes_broadcasting (p : Policy) (now : Timestamp) {sent : Record} {raw : Bytes}
    (h : Reverts sent.nonce entry (g.ledgers.get? request.account))
    (hcrash : ∀ crash, reply ≠ .crashed crash) :
    Goes entry ⟨request, .broadcasting sent raw⟩ g (Counts ⟨request, .broadcasting sent raw⟩ reply)
        (resume p now g ⟨request, .broadcasting sent raw⟩ reply) ∨
      ∃ r, Submit.concluded? now sent 0 reply = some r ∧
        EndsInDoubt (resume p now g ⟨request, .broadcasting sent raw⟩ reply).2 := by
  have hcounts : ¬ (⟨request, .broadcasting sent raw⟩ : Submit).Counts reply := by
    simp [Counts, turn?]
  cases reply with
  | accepted hash =>
      refine .inr ⟨_, rfl, ?_⟩
      simp only [resume, accept]
      rcases g.watch_cases (.fresh now ⟨sent.id, sent.account, sent.nonce, hash⟩) with
        ⟨g', hwatch, -, -⟩ | ⟨g', conflict, hwatch, -, -⟩
      · rw [hwatch]
        trivial
      · rw [hwatch]
        trivial
  | unreachable detail => exact .inr ⟨sent, rfl, endsInDoubt_hold rfl⟩
  | silence => exact .inr ⟨sent, rfl, endsInDoubt_hold rfl⟩
  | crashed crash => exact absurd rfl (hcrash crash)
  | rejected reason => exact .inl (.keep rfl hcounts (fun hearly => by cases hearly) h)
  | _ => exact .inl (.stay h hcounts)

/-- The nonce that is given back restores the entry before the submission fails. -/
theorem goes_returning (p : Policy) (now : Timestamp) {n : Nat} {e : Failure}
    (h : Reverts n entry (g.ledgers.get? request.account)) :
    Goes entry ⟨request, .returning n e⟩ g (Counts ⟨request, .returning n e⟩ reply)
      (resume p now g ⟨request, .returning n e⟩ reply) := by
  have hcounts : ¬ (⟨request, .returning n e⟩ : Submit).Counts reply := by
    cases reply <;> simp [Counts, turn?]
  cases reply with
  | done =>
      obtain ⟨l, l', hentry, hnow, hback⟩ := h
      have hconfined := (g.spares_giveBack request.account n).confined
      have hget := (Gateway.get?_giveBack hnow hback).trans hentry.symm
      simp only [resume, fail]
      split
      · exact .fails (hconfined.trans ⟨rfl, fun _ _ => rfl⟩) hget hcounts
      · exact .fails hconfined hget hcounts
  | _ => exact .stay h hcounts

end

/-- A submission that has left no trace so far leaves none by its next step, unless that step ends
its broadcast without a refusal. -/
theorem goes_resume (p : Policy) (now : Timestamp) (hkept : (g.ledger c.request.account).Kept)
    (hroom : (g.afterTurn now (c.turn? reply) c.request.account).HasRoom)
    (h : c.stage.Restores entry (g.ledgers.get? c.request.account))
    (hcrash : ∀ crash, reply ≠ .crashed crash) :
    Goes entry c g (c.Counts reply) (c.resume p now g reply) ∨
      ∃ sent raw r, c.stage = .broadcasting sent raw ∧
        Submit.concluded? now sent 0 reply = some r ∧
        EndsInDoubt (c.resume p now g reply).2 := by
  obtain ⟨request, stage⟩ := c
  cases stage with
  | aging => exact .inl (goes_aging p now hkept h)
  | refreshing r => exact .inl (goes_refreshing p now h)
  | noting =>
      obtain ⟨hnow, l, hentry, hs⟩ := h
      exact .inl (goes_noting p now hnow hentry hs)
  | obtaining o =>
      cases o with
      | seeding r => exact h.elim
      | turn =>
          obtain ⟨hnow, l, hentry, hs⟩ := h
          exact .inl (goes_obtaining p now hkept hnow hentry hs hroom)
  | pricing n => exact .inl (goes_pricing p now h)
  | signing n price => exact .inl (goes_signing p now h)
  | broadcasting sent raw =>
      exact (goes_broadcasting p now h hcrash).imp_right fun ⟨r, hr, hdoubt⟩ =>
        ⟨sent, raw, r, rfl, hr, hdoubt⟩
  | returning n e => exact .inl (goes_returning p now h)
  | holding r e => exact h.elim
  | saving submission r => exact h.elim

/-- A submission that restores an entry has nothing to be stored. -/
theorem Stage.Restores.record?_eq {now : Option Ledger} (h : c.stage.Restores entry now) :
    c.query.record? = none := by
  obtain ⟨request, stage⟩ := c
  cases stage with
  | refreshing r => cases r <;> rfl
  | obtaining o =>
      cases o with
      | turn => rfl
      | seeding r => exact h.elim
  | holding r e => exact h.elim
  | saving submission r => exact h.elim
  | _ => rfl

/-- A submission that restores an entry asks for a count only to bring an old ledger up to date. -/
theorem Stage.Restores.stage_of_query {now : Option Ledger} {a : Address}
    (h : c.stage.Restores entry now) (hquery : c.query = .count a) :
    c.stage = .refreshing .asking := by
  obtain ⟨request, stage⟩ := c
  cases stage with
  | refreshing r =>
      cases r with
      | asking => rfl
      | applying count => cases hquery
  | obtaining o =>
      cases o with
      | turn => cases hquery
      | seeding r => exact h.elim
  | _ => cases hquery

end

end Submit

end TxGateway
