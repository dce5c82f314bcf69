import TxGateway.Proofs.Polling
import TxGateway.Proofs.StoreAnswers
import TxGateway.Proofs.Undoing

/-!
# The errands of a poll

When the chain and the store answer at once and always in the same way, it is settled beforehand
what a poll on behalf of a client asks, one question after another, and what each answer does to the
records and to the ledgers. Each question is an errand; a poll has the errands that its transaction
still needs ahead of it.
-/

namespace TxGateway

/-- What a chain tells about each transaction whenever it is asked, and how a store takes the record
of each. -/
structure Tidings where
  /-- What the chain tells about the receipt. -/
  receipt : TxHash → ChainAnswer (Option Receipt)
  /-- What it tells about the transaction itself. -/
  body : TxHash → ChainAnswer (Option TransactionBody)
  /-- Why the store does not take the record, if it does not. -/
  fault? : TxHash → Option Failure

/-- One question of a poll, with what it is for. -/
inductive Errand
  /-- To ask for the receipt. -/
  | receipt (hash : TxHash)
  /-- To ask for the transaction itself. -/
  | transaction (hash : TxHash)
  /-- To give a nonce back at a turn. -/
  | giveBack (account : Address) (nonce : Nat)
  /-- To make a ledger stale at a turn. -/
  | expire (account : Address)
  /-- To store a record. -/
  | save (record : Record)
  deriving DecidableEq

namespace Errand

/-- The question. -/
def query : Errand → Query
  | receipt h => .receipt h
  | transaction h => .transaction h
  | giveBack a _ | expire a => .turn a
  | save r => .saveRecord r

/-- Whether a record is to be stored. -/
def isSave : Errand → Bool
  | save _ => true
  | _ => false

/-- What an errand does to the ledger of an account. -/
def onLedger (b : Address) (l : Ledger) : Errand → Ledger
  | giveBack a n => if b = a then (l.giveBack? n).getD l else l
  | expire a => if b = a then l.expire else l
  | _ => l

end Errand

namespace Tidings

variable (w : Tidings) (p : Policy) (now : Timestamp)

/-- The answer to a question of a poll. A turn at a ledger is there at once. -/
def answer : Query → Reply
  | .receipt h => (w.receipt h).toReply .receipt
  | .transaction h => (w.body h).toReply .transaction
  | .saveRecord r => .ofWrite (w.fault? r.hash)
  | _ => .done

/-- The status that a poll takes in, unless it fails. -/
def status? (r : Record) : Option Status :=
  match w.receipt r.hash with
  | .told receipt =>
    if Poll.LeavesOpen p r.submittedAt now receipt then
      match w.body r.hash with
      | .told body => some (Poll.statusWith p receipt body)
      | _ => none
    else some (Poll.statusOf receipt)
  | _ => none

/-- A record whose outcome is open after a poll. -/
def polled (r : Record) : Record :=
  match w.status? p now r with
  | some status => { r with status := status, lastPolledAt := some now }
  | none => r

/-- Whether the transaction itself is asked for. -/
def asksOn (r : Record) : Bool :=
  match w.receipt r.hash with
  | .told receipt => decide (Poll.LeavesOpen p r.submittedAt now receipt)
  | _ => false

/-- What follows when a poll has left a record as it is now. -/
def followUps (r : Record) : List Errand :=
  if r.status = .dropped then [.giveBack r.account r.nonce, .expire r.account, .save r]
  else if r.status.isFinal then [.save r]
  else []

/-- The errands for a record whose outcome is open. -/
def plan (r : Record) : List Errand :=
  .receipt r.hash ::
    ((if w.asksOn p now r then [.transaction r.hash] else []) ++ followUps (w.polled p now r))

end Tidings

/-- The transaction that a poll on behalf of a client has not settled yet. -/
def Settle.due : Settle → Option TxHash
  | polling q => some q.hash
  | _ => none

/-- The transaction that a poll has not settled yet after an answer. -/
def Progress.due {α : Type} : Progress Settle α → Option TxHash
  | waiting c => c.due
  | ended _ => none

/-- The errands that a poll still has ahead of it, given the records that were there when it
began. -/
def Settle.ahead (w : Tidings) (p : Policy) (now : Timestamp) (records : TxHash → Option Record) :
    Settle → List Errand
  | polling q => match records q.hash with
    | none => []
    | some r => match q.stage with
      | .receipt => w.plan p now r
      | .transaction _ => (w.plan p now r).tail
  | releasing o => [.giveBack o.record.account o.record.nonce, .expire o.record.account,
      .save o.record]
  | expiring o => [.expire o.record.account, .save o.record]
  | saving o => [.save o.record]

/-- A poll has got so far by what the chain tells. -/
def Settle.Fits (w : Tidings) (p : Policy) (now : Timestamp) (records : TxHash → Option Record) :
    Settle → Prop
  | polling q => ∃ r, records r.hash = some r ∧ r.status = .pending ∧
      (q = ⟨r.hash, r.submittedAt, .receipt⟩ ∨
        ∃ receipt, q = ⟨r.hash, r.submittedAt, .transaction receipt⟩ ∧
          w.receipt r.hash = .told receipt ∧ Poll.LeavesOpen p r.submittedAt now receipt)
  | releasing o | expiring o | saving o => o.changed = true

/-- A poll does an errand, the first one that it has ahead. -/
structure Settle.Does (w : Tidings) (p : Policy) (now : Timestamp)
    (records : TxHash → Option Record) (c : Settle) (g : Gateway) (e : Errand) (rest : List Errand)
    (y : Gateway × Progress Settle (Except Failure Watchlist.Observation)) : Prop where
  /-- If it goes on, it has the other errands ahead, has stored nothing, and its transaction is
  settled now or as due as before. -/
  goes : ∀ c', y.2 = .waiting c' → c'.Fits w p now records ∧ c'.ahead w p now records = rest ∧
    e.isSave = false ∧ (c'.due = c.due ∨ c'.due = none)
  /-- If it ends, no errand is left, and it has made its transaction final if it has stored a
  record. -/
  ends : ∀ result, y.2 = .ended result → rest = [] ∧ Sweep.hasSettled result = e.isSave
  /-- The errand does to the ledgers what it is for. -/
  ledgers : ∀ a, y.1.ledgers.get? a = (g.ledgers.get? a).map fun l => e.onLedger a l
  /-- The same transactions use the same nonces. -/
  holders : y.1.watchlist.holders = g.watchlist.holders
  /-- A record changes when it is settled. -/
  settled : ∀ h, c.due = some h → y.2.due ≠ some h →
    y.1.watchlist.lookup? h = (records h).map (w.polled p now)
  /-- Other records stay as they are. -/
  others : ∀ h, c.due ≠ some h ∨ y.2.due = some h →
    y.1.watchlist.lookup? h = g.watchlist.lookup? h

/-- The chain tells something, or the question fails. -/
theorem ChainAnswer.told_or_fails {α : Type} (answer : ChainAnswer α) (operation : String) :
    (∃ value, answer = .told value) ∨
      ∃ e, answer.failure? operation = some e ∧ ∀ value, answer ≠ .told value := by
  cases answer with
  | told value => exact .inl ⟨value, rfl⟩
  | failed e => exact .inr ⟨e, rfl, fun _ h => by cases h⟩
  | silent => exact .inr ⟨_, rfl, fun _ h => by cases h⟩

section

variable {w : Tidings} {p : Policy} {now : Timestamp} {records : TxHash → Option Record}
  {g : Gateway} {e : Errand}

theorem Gateway.get?_ledgers_giveBack (g : Gateway) (a b : Address) (n : Nat) :
    (g.giveBack a n).1.ledgers.get? b =
      (g.ledgers.get? b).map fun l => (Errand.giveBack a n).onLedger b l := by
  by_cases hb : b = a
  · subst hb
    cases hget : g.ledgers.get? b with
    | none => simp [Gateway.giveBack, hget]
    | some l =>
        cases hback : l.giveBack? n <;>
          simp [Gateway.giveBack, Gateway.measure, Gateway.setLedger, Errand.onLedger, hget, hback]
  · rw [(g.spares_giveBack a n).others b hb]
    simp [Errand.onLedger, hb]

theorem Gateway.get?_ledgers_expire (g : Gateway) (a b : Address) :
    (g.expire a).ledgers.get? b =
      (g.ledgers.get? b).map fun l => (Errand.expire a).onLedger b l := by
  by_cases hb : b = a
  · subst hb
    cases hget : g.ledgers.get? b <;>
      simp [Gateway.expire, Gateway.setLedger, Errand.onLedger, hget]
  · rw [(g.spares_expire a).others b hb]
    simp [Errand.onLedger, hb]

/-- To ask the chain changes no ledger and stores nothing. -/
structure Errand.Asks (e : Errand) : Prop where
  /-- Every ledger stays as it is. -/
  onLedger_eq : ∀ a l, e.onLedger a l = l
  /-- Nothing is stored. -/
  isSave_eq : e.isSave = false

theorem Errand.Asks.get?_eq (he : e.Asks) (g : Gateway) (a : Address) :
    g.ledgers.get? a = (g.ledgers.get? a).map fun l => e.onLedger a l := by
  simp only [he.onLedger_eq, Option.map_id']

theorem Errand.asks_receipt (h : TxHash) : (Errand.receipt h).Asks := ⟨fun _ _ => rfl, rfl⟩

theorem Errand.asks_transaction (h : TxHash) : (Errand.transaction h).Asks := ⟨fun _ _ => rfl, rfl⟩

section

variable {q : Poll} {r : Record} {reply : Reply}

/-- A poll that fails leaves its record as it was. -/
theorem Settle.does_of_failed (he : e.Asks) (hr : records q.hash = some r)
    (hget : g.watchlist.lookup? q.hash = some r) {failure : Failure}
    (hverdict : q.verdict? p now reply = some (.failed failure)) (hpolled : w.polled p now r = r) :
    (polling q).Does w p now records g e [] ((polling q).resume p now g reply) := by
  have hstep : (polling q).resume p now g reply =
      (g.measure (·.pollError), .ended (.error failure)) := by
    simp only [resume, Poll.resume, hverdict, afterPoll]
  rw [hstep]
  refine ⟨fun c' hc' => (by cases hc'), fun result hresult => ?_, he.get?_eq g, rfl,
    fun h hh _ => ?_, fun _ _ => rfl⟩
  · cases hresult
    exact ⟨rfl, he.isSave_eq.symm⟩
  · cases hh
    rw [hr, Option.map_some, hpolled]
    exact hget

/-- A poll that has settled a record ends if its outcome is still open, and otherwise has ahead of
it what follows from the record. -/
theorem Settle.afterPoll_cases (w : Tidings) (p : Policy) (now : Timestamp)
    (records : TxHash → Option Record) (r : Record) :
    (Tidings.followUps r = [] ∧
      afterPoll (.ended (.ok ⟨r, r.status.isFinal⟩)) = .ended (.ok ⟨r, false⟩)) ∨
    ∃ c, afterPoll (.ended (.ok ⟨r, r.status.isFinal⟩)) = .waiting c ∧ c.Fits w p now records ∧
      c.ahead w p now records = Tidings.followUps r ∧ c.due = none := by
  cases hfinal : r.status.isFinal with
  | false =>
      have hdropped : r.status ≠ .dropped := fun h => by simp [h, Status.isFinal] at hfinal
      exact .inl ⟨by simp [Tidings.followUps, hdropped, hfinal], rfl⟩
  | true =>
      by_cases hdropped : r.status = .dropped
      · exact .inr ⟨.releasing ⟨r, true⟩, by simp [afterPoll, hdropped], rfl,
          by simp [ahead, Tidings.followUps, hdropped], rfl⟩
      · exact .inr ⟨.saving ⟨r, true⟩, by simp [afterPoll, hdropped], rfl,
          by simp [ahead, Tidings.followUps, hdropped, hfinal], rfl⟩

/-- A poll that is answered settles its record; what follows depends on the status. -/
theorem Settle.does_of_decided (he : e.Asks) (hr : records q.hash = some r)
    (hpending : r.status = .pending) (hget : g.watchlist.lookup? q.hash = some r) {status : Status}
    (hverdict : q.verdict? p now reply = some (.decided status))
    (hpolled : w.polled p now r = { r with status := status, lastPolledAt := some now }) :
    (polling q).Does w p now records g e (Tidings.followUps (w.polled p now r))
      ((polling q).resume p now g reply) := by
  have htakes := Poll.takesIn_apply q.hash now status g
  obtain ⟨hlookup, hresult⟩ := htakes.settles r hget hpending
  have hstep : (polling q).resume p now g reply = ((Poll.apply now g q.hash status).1,
      afterPoll (.ended (.ok ⟨w.polled p now r, (w.polled p now r).status.isFinal⟩))) := by
    simp only [resume, Poll.resume, hverdict, hresult, hpolled]
  have hledgers : ∀ a, (Poll.apply now g q.hash status).1.ledgers.get? a =
      (g.ledgers.get? a).map fun l => e.onLedger a l := by
    rw [htakes.ledgers_eq]
    exact he.get?_eq g
  have hsettled : (Poll.apply now g q.hash status).1.watchlist.lookup? q.hash =
      (records q.hash).map (w.polled p now) := by
    rw [hlookup, hr, Option.map_some, hpolled]
  -- However it goes on, nothing is due any more.
  have hothers : ∀ h, (polling q).due ≠ some h ∨ none = some h →
      (Poll.apply now g q.hash status).1.watchlist.lookup? h = g.watchlist.lookup? h := by
    rintro h (hne | ⟨⟨⟩⟩)
    exact htakes.others h fun heq => hne (by rw [heq]; rfl)
  rw [hstep]
  rcases afterPoll_cases w p now records (w.polled p now r) with
    ⟨hnone, hend⟩ | ⟨c, hgo, hfits, hahead, hdue⟩
  · rw [hend, hnone]
    refine ⟨fun c' hc' => (by cases hc'), fun result hresult => ?_, hledgers, htakes.holders_eq,
      fun h hh _ => (by cases hh; exact hsettled), hothers⟩
    cases hresult
    exact ⟨rfl, he.isSave_eq.symm⟩
  · rw [hgo]
    refine ⟨fun c' hc' => ?_, fun result hresult => (by cases hresult), hledgers,
      htakes.holders_eq, fun h hh _ => (by cases hh; exact hsettled), fun h hh => ?_⟩
    · cases hc'
      exact ⟨hfits, hahead, he.isSave_eq, .inr hdue⟩
    · exact hothers h (hh.imp_right fun hnext => hdue.symm.trans hnext)

/-- A poll for which the receipt says too little asks for the transaction itself. -/
theorem Settle.does_of_undecided (hr : records r.hash = some r) (hpending : r.status = .pending)
    {receipt : Option Receipt} (htold : w.receipt r.hash = .told receipt)
    (hopen : Poll.LeavesOpen p r.submittedAt now receipt) (he : e.Asks)
    (hverdict : Poll.verdict? p now ⟨r.hash, r.submittedAt, .receipt⟩ reply =
      some (.undecided receipt)) :
    (polling ⟨r.hash, r.submittedAt, .receipt⟩).Does w p now records g e (w.plan p now r).tail
      ((polling ⟨r.hash, r.submittedAt, .receipt⟩).resume p now g reply) := by
  have hstep : (polling ⟨r.hash, r.submittedAt, .receipt⟩).resume p now g reply =
      (g, .waiting (.polling ⟨r.hash, r.submittedAt, .transaction receipt⟩)) := by
    simp only [resume, Poll.resume, hverdict, afterPoll]
  rw [hstep]
  refine ⟨fun c' hc' => ?_, fun result hend => (by cases hend), he.get?_eq g, rfl,
    fun h hh hdone => absurd hh hdone, fun _ _ => rfl⟩
  · cases hc'
    refine ⟨⟨r, hr, hpending, .inr ⟨receipt, rfl, htold, hopen⟩⟩, ?_, he.isSave_eq, .inl rfl⟩
    simp only [ahead, hr]

/-- Nothing follows while the outcome of a transaction is open. -/
theorem Tidings.followUps_of_pending (hpending : r.status = .pending) : followUps r = [] := by
  simp [followUps, hpending, Status.isFinal]

/-- The question for the receipt. -/
theorem Settle.does_receipt (hr : records r.hash = some r) (hpending : r.status = .pending)
    (hget : g.watchlist.lookup? r.hash = some r) :
    (polling ⟨r.hash, r.submittedAt, .receipt⟩).Does w p now records g (.receipt r.hash)
      (w.plan p now r).tail ((polling ⟨r.hash, r.submittedAt, .receipt⟩).resume p now g
        (w.answer (.receipt r.hash))) := by
  have hasks := Errand.asks_receipt r.hash
  rcases (w.receipt r.hash).told_or_fails "get transaction receipt" with
    ⟨receipt, htold⟩ | ⟨e, he, hno⟩
  · have hverdict := Poll.verdict?_receipt p now r.hash r.submittedAt receipt
    have hanswer : w.answer (.receipt r.hash) = .receipt receipt := by
      simp only [Tidings.answer, htold, ChainAnswer.toReply]
    rw [hanswer]
    by_cases hopen : Poll.LeavesOpen p r.submittedAt now receipt
    · rw [if_pos hopen] at hverdict
      exact does_of_undecided hr hpending htold hopen hasks hverdict
    · rw [if_neg hopen] at hverdict
      have hpolled : w.polled p now r =
          { r with status := Poll.statusOf receipt, lastPolledAt := some now } := by
        simp [Tidings.polled, Tidings.status?, htold, hopen]
      have hrest : (w.plan p now r).tail = Tidings.followUps (w.polled p now r) := by
        simp [Tidings.plan, Tidings.asksOn, htold, hopen]
      rw [hrest]
      exact does_of_decided hasks hr hpending hget hverdict hpolled
  · have hstatus : w.status? p now r = none := by
      cases hw : w.receipt r.hash <;> simp_all [Tidings.status?]
    have hpolled : w.polled p now r = r := by simp only [Tidings.polled, hstatus]
    have hclosed : w.asksOn p now r = false := by
      cases hw : w.receipt r.hash <;> simp_all [Tidings.asksOn]
    have hrest : (w.plan p now r).tail = [] := by
      simp [Tidings.plan, hclosed, hpolled, Tidings.followUps_of_pending hpending]
    rw [hrest]
    exact does_of_failed hasks hr hget (Poll.verdict?_of_failure p now .receipt he) hpolled

/-- The question for the transaction itself. -/
theorem Settle.does_transaction (hr : records r.hash = some r) (hpending : r.status = .pending)
    (hget : g.watchlist.lookup? r.hash = some r) {receipt : Option Receipt}
    (htold : w.receipt r.hash = .told receipt)
    (hopen : Poll.LeavesOpen p r.submittedAt now receipt) :
    (polling ⟨r.hash, r.submittedAt, .transaction receipt⟩).Does w p now records g
      (.transaction r.hash) (Tidings.followUps (w.polled p now r))
      ((polling ⟨r.hash, r.submittedAt, .transaction receipt⟩).resume p now g
        (w.answer (.transaction r.hash))) := by
  have hasks := Errand.asks_transaction r.hash
  rcases (w.body r.hash).told_or_fails "get transaction" with ⟨body, hbody⟩ | ⟨e, he, hno⟩
  · have hanswer : w.answer (.transaction r.hash) = .transaction body := by
      simp only [Tidings.answer, hbody, ChainAnswer.toReply]
    rw [hanswer]
    refine does_of_decided hasks hr hpending hget
      (Poll.verdict?_transaction p now r.hash r.submittedAt receipt body) ?_
    simp [Tidings.polled, Tidings.status?, htold, hopen, hbody]
  · have hstatus : w.status? p now r = none := by
      cases hw : w.body r.hash <;> simp_all [Tidings.status?]
    have hpolled : w.polled p now r = r := by simp only [Tidings.polled, hstatus]
    rw [hpolled, Tidings.followUps_of_pending hpending]
    exact does_of_failed hasks hr hget (Poll.verdict?_of_failure p now .transaction he) hpolled

end

/-- A poll whose transaction is settled does something that leaves the records alone. -/
theorem Settle.does_of_settled {c : Settle} (hdue : c.due = none) {g' : Gateway} {e : Errand}
    {rest : List Errand} {x : Progress Settle (Except Failure Watchlist.Observation)}
    (hwatchlist : g'.watchlist = g.watchlist)
    (hledgers : ∀ a, g'.ledgers.get? a = (g.ledgers.get? a).map fun l => e.onLedger a l)
    (hgoes : ∀ c', x = .waiting c' → c'.Fits w p now records ∧
      c'.ahead w p now records = rest ∧ e.isSave = false ∧ c'.due = none)
    (hends : ∀ result, x = .ended result → rest = [] ∧ Sweep.hasSettled result = e.isSave) :
    c.Does w p now records g e rest (g', x) where
  goes := fun c' hc' => by
    obtain ⟨hfits, hahead, hsave, hdue'⟩ := hgoes c' hc'
    exact ⟨hfits, hahead, hsave, .inr hdue'⟩
  ends := hends
  ledgers := hledgers
  holders := by rw [hwatchlist]
  settled := fun h hh => by
    rw [hdue] at hh
    cases hh
  others := fun h _ => by rw [hwatchlist]

/-- A poll on behalf of a client does its errands one after another, whatever else has been done to
the gateway, as long as its own transaction is as it was. -/
theorem Settle.does_errand {c : Settle} (hfits : c.Fits w p now records)
    (hsame : ∀ h, c.due = some h → g.watchlist.lookup? h = records h) :
    ∃ e rest, c.ahead w p now records = e :: rest ∧ e.query = c.query ∧
      c.Does w p now records g e rest (c.resume p now g (w.answer c.query)) := by
  cases c with
  | polling q =>
      obtain ⟨r, hr, hpending, hstage⟩ := hfits
      rcases hstage with rfl | ⟨receipt, rfl, htold, hopen⟩
      · refine ⟨.receipt r.hash, (w.plan p now r).tail, ?_, rfl,
          does_receipt hr hpending ((hsame r.hash rfl).trans hr)⟩
        simp only [ahead, hr, Tidings.plan, List.tail_cons]
      · refine ⟨.transaction r.hash, Tidings.followUps (w.polled p now r), ?_, rfl,
          does_transaction hr hpending ((hsame r.hash rfl).trans hr) htold hopen⟩
        simp [ahead, hr, Tidings.plan, Tidings.asksOn, htold, hopen]
  | releasing o =>
      refine ⟨.giveBack o.record.account o.record.nonce, _, rfl, rfl, ?_⟩
      refine does_of_settled rfl (g.spares_giveBack _ _).watchlist_eq
        (fun a => g.get?_ledgers_giveBack _ a _) ?_ ?_
      · rintro c' ⟨⟩
        exact ⟨hfits, rfl, rfl, rfl⟩
      · rintro result ⟨⟩
  | expiring o =>
      refine ⟨.expire o.record.account, _, rfl, rfl, ?_⟩
      refine does_of_settled rfl (g.spares_expire _).watchlist_eq
        (fun a => g.get?_ledgers_expire _ a) ?_ ?_
      · rintro c' ⟨⟩
        exact ⟨hfits, rfl, rfl, rfl⟩
      · rintro result ⟨⟩
  | saving o =>
      have hstep : (saving o).resume p now g (w.answer (saving o).query) = (g, .ended (.ok o)) := by
        simp only [query, Tidings.answer]
        cases w.fault? o.record.hash <;> rfl
      rw [hstep]
      refine ⟨.save o.record, [], rfl, rfl, ?_⟩
      refine does_of_settled rfl rfl (fun a => ?_) ?_ ?_
      · exact (Option.map_id' (x := g.ledgers.get? a)).symm
      · rintro c' ⟨⟩
      · rintro result ⟨⟩
        exact ⟨rfl, hfits⟩

end

end TxGateway
