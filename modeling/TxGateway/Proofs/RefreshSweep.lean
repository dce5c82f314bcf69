import TxGateway.Proofs.Keyed
import TxGateway.Proofs.SweepOutcome
import Mathlib.Logic.Relation

/-!
# A sweep in any order

A sweep runs while nothing else happens; the chain and the store answer at once, each question in
one way. In whatever order the live transactions are listed, and whichever of the polls goes on
next, the sweep polls each of them once and no other one, ends, and comes to the same records, the
same ledgers, the same store and the same number. What becomes of one transaction makes no
difference to the others.
-/

namespace TxGateway

/-- Two chains, each with a store, that say the same about a transaction. -/
structure Tidings.SaysAs (w w' : Tidings) (h : TxHash) : Prop where
  /-- They tell the same about the receipt. -/
  receipt_eq : w'.receipt h = w.receipt h
  /-- They tell the same about the transaction itself. -/
  body_eq : w'.body h = w.body h
  /-- The store takes the record, or does not, alike. -/
  fault?_eq : w'.fault? h = w.fault? h

/-- A question of the poll of a transaction fails. -/
def Tidings.Fails (w : Tidings) (p : Policy) (now : Timestamp) (r : Record) : Prop :=
  (∀ receipt, w.receipt r.hash ≠ .told receipt) ∨
    w.asksOn p now r = true ∧ ∀ body, w.body r.hash ≠ .told body

section

variable {w w' : Tidings} {p : Policy} {now : Timestamp} {r : Record}

/-- A poll that fails leaves its record as it was. -/
theorem Tidings.Fails.polled_eq (h : w.Fails p now r) : w.polled p now r = r := by
  have hstatus : w.status? p now r = none := by
    simp only [status?]
    cases hreceipt : w.receipt r.hash with
    | told receipt =>
        rcases h with hno | ⟨hon, hno⟩
        · exact absurd hreceipt (hno receipt)
        · simp only [asksOn, hreceipt, decide_eq_true_eq] at hon
          cases hbody : w.body r.hash with
          | told body => exact absurd hbody (hno body)
          | _ => simp [hon]
    | _ => rfl
  simp only [polled, hstatus]

theorem Tidings.SaysAs.polled_eq (h : w.SaysAs w' r.hash) :
    w'.polled p now r = w.polled p now r := by
  simp only [polled, status?, h.receipt_eq, h.body_eq]

end

theorem Entries.get?_perm {κ α : Type} [DecidableEq κ] {es fs : List (κ × α)}
    (hes : (es.map Prod.fst).Nodup) (hperm : es.Perm fs) (k : κ) : get? k es = get? k fs := by
  have hfs : (fs.map Prod.fst).Nodup := (hperm.map Prod.fst).nodup_iff.mp hes
  ext a
  constructor
  · intro ha
    exact get?_of_mem hfs (hperm.mem_iff.mp (mem_of_get? ha))
  · intro ha
    exact get?_of_mem hes (hperm.mem_iff.mpr (mem_of_get? ha))

/-- The same records, listed in another order. -/
def System.relist (s : System) (records : Table TxHash Record) : System :=
  { s with
    gateway := { s.gateway with watchlist := { s.gateway.watchlist with records := records } } }

section

variable {s : System} {records : Table TxHash Record}

theorem System.lookup?_relist (hperm : records.entries.Perm s.gateway.watchlist.records.entries)
    (h : TxHash) : (s.relist records).gateway.watchlist.lookup? h =
      s.gateway.watchlist.lookup? h :=
  Entries.get?_perm records.nodup hperm h

theorem Watchlist.Keyed.relist (hk : s.gateway.watchlist.Keyed)
    (hperm : records.entries.Perm s.gateway.watchlist.records.entries) :
    (s.relist records).gateway.watchlist.Keyed := by
  intro h r hr
  rw [System.lookup?_relist hperm] at hr
  exact hk h r hr

end

/-- A sweep on its way. -/
structure Passage where
  /-- The system. -/
  system : System
  /-- How the sweep ended, if it did. -/
  ending : Option (Ending Outcome)
  /-- What has been asked, in this order. -/
  asked : List Query
  /-- What the store holds. -/
  store : Table TxHash Record

namespace Passage

/-- A sweep that has just been set going. -/
def outset (p : Policy) (now : Timestamp) (s : System) (store : Table TxHash Record) : Passage :=
  let (t, effect) := s.start p now .sweep
  ⟨t, effect.ending, [], store⟩

section

variable (w : Tidings) (p : Policy) (now : Timestamp) (i : Nat)

/-- The sweep after the answer to a question. -/
def answered (x : Passage) (slot : Nat) (q : Query) : Passage :=
  let (t, effect) := x.system.reply p now i slot (w.answer q)
  ⟨t, effect.ending, x.asked ++ [q], w.take x.store q⟩

/-- One of the questions of the sweep is answered. -/
def Goes (x y : Passage) : Prop :=
  ∃ slot q, (slot, q) ∈ x.system.queries i ∧ y = x.answered w p now i slot q

end

/-- Where the sweep stands, as part of the system. -/
def Shows (i : Nat) (x : Passage) : Gateway × Progress Sweep Nat → Prop
  | (g, .waiting s) => x.system.gateway = g ∧ x.ending = none ∧
      x.system.calls.get? i = some (.sweep s)
  | (g, .ended n) => x.system.gateway = g ∧ x.ending = some (.ofValue (.counted n)) ∧
      x.system.calls.get? i = none

/-- What a sweep has made of a system and a store by the errands that it has done. -/
structure Stands (w : Tidings) (p : Policy) (now : Timestamp) (s : System)
    (store : Table TxHash Record) (x : Passage) (done : List Errand) : Prop where
  /-- What has been asked are the questions of the errands. -/
  asked_eq : x.asked = done.map Errand.query
  /-- The store has been given the records that were to be stored. -/
  store_eq : x.store = x.asked.foldl w.take store
  /-- The errands have been done. -/
  reaches : ∃ y, x.Shows s.opened y ∧ Sweep.Reaches w p now s.gateway done y

section

variable {w : Tidings} {p : Policy} {now : Timestamp} {s : System} {store : Table TxHash Record}
  {x y : Passage} {done : List Errand} {i slot : Nat} {q : Query}

theorem shows_outset (hfree : s.calls.get? s.opened = none) :
    (outset p now s store).Shows s.opened (Sweep.start s.gateway) := by
  have hstart : Call.start p now s.gateway .sweep = ((Sweep.start s.gateway).1,
      (Sweep.start s.gateway).2.map .sweep (.ofValue ∘ .counted)) := rfl
  generalize Sweep.start s.gateway = y at hstart
  obtain ⟨g, x⟩ := y
  cases x with
  | waiting sw =>
      simp only [outset, System.start, hstart, Progress.map]
      exact ⟨rfl, rfl, Table.get?_set_self _ _ _⟩
  | ended n =>
      simp only [outset, System.start, hstart, Progress.map]
      exact ⟨rfl, rfl, hfree⟩

/-- No answer of the chain or the store breaks a call off. -/
theorem answer_ne_crashed (w : Tidings) (q : Query) (crash : Crash) :
    w.answer q ≠ .crashed crash := by
  cases q with
  | receipt h =>
      simp only [Tidings.answer]
      cases w.receipt h <;> exact fun hcrash => by cases hcrash
  | transaction h =>
      simp only [Tidings.answer]
      cases w.body h <;> exact fun hcrash => by cases hcrash
  | saveRecord r =>
      simp only [Tidings.answer]
      cases w.fault? r.hash <;> exact fun hcrash => by cases hcrash
  | _ => exact fun hcrash => by cases hcrash

theorem shows_answered {sw : Sweep} (hcall : x.system.calls.get? i = some (.sweep sw)) :
    (x.answered w p now i slot q).Shows i
      (sw.resume p now x.system.gateway slot (w.answer q)) := by
  have hresume : (Call.sweep sw).resume p now x.system.gateway slot (w.answer q) =
      ((sw.resume p now x.system.gateway slot (w.answer q)).1,
        (sw.resume p now x.system.gateway slot (w.answer q)).2.map .sweep
          (.ofValue ∘ .counted)) := by
    rw [Call.resume_eq_proceed (answer_ne_crashed w q)]
    rfl
  generalize sw.resume p now x.system.gateway slot (w.answer q) = y at hresume
  obtain ⟨g, progress⟩ := y
  cases progress with
  | waiting sw' =>
      simp only [answered, System.reply, hcall, hresume, Progress.map]
      exact ⟨rfl, rfl, Table.get?_set_self _ _ _⟩
  | ended n =>
      simp only [answered, System.reply, hcall, hresume, Progress.map, Function.comp_apply,
        Ending.ofValue]
      exact ⟨rfl, rfl, by simp [Table.get?_erase]⟩

theorem stands_outset (hfree : s.calls.get? s.opened = none)
    (hkeyed : s.gateway.watchlist.Keyed) : (outset p now s store).Stands w p now s store [] :=
  ⟨rfl, rfl, _, shows_outset hfree, Sweep.reaches_start hkeyed⟩

/-- Whatever is answered next, one errand more is done. -/
theorem Stands.goes (h : x.Stands w p now s store done) (hgoes : Goes w p now s.opened x y) :
    ∃ e, y.Stands w p now s store (done ++ [e]) := by
  obtain ⟨slot, q, hq, rfl⟩ := hgoes
  obtain ⟨⟨g, progress⟩, hshows, hreaches⟩ := h.reaches
  cases progress with
  | waiting sw =>
      obtain ⟨rfl, -, hcall⟩ := hshows
      obtain ⟨hat, -⟩ := hreaches
      have hqueries : x.system.queries s.opened = sw.queries := by
        rw [System.queries, hcall]
        rfl
      rw [hqueries, Sweep.queries] at hq
      obtain ⟨⟨j, c⟩, hrunning, heq⟩ := List.mem_map.mp hq
      cases heq
      have hpoll : sw.poll? slot = some c := by
        rw [Sweep.poll?_eq]
        exact Entries.get?_of_mem hat.sound.nodup hrunning
      obtain ⟨e, hquery, hreaches⟩ := hat.resume hpoll
      refine ⟨e, ?_, ?_, _, shows_answered hcall, hreaches⟩
      · simp [answered, h.asked_eq, hquery]
      · simp [answered, h.store_eq]
  | ended n =>
      obtain ⟨-, -, hnone⟩ := hshows
      simp only [System.queries, hnone] at hq
      cases hq

/-- However far a sweep has come, it has done some errands. -/
theorem exists_stands (hfree : s.calls.get? s.opened = none) (hkeyed : s.gateway.watchlist.Keyed)
    (hrun : Relation.ReflTransGen (Goes w p now s.opened) (outset p now s store) x) :
    ∃ done, x.Stands w p now s store done := by
  induction hrun with
  | refl => exact ⟨[], stands_outset hfree hkeyed⟩
  | tail _ hgoes ih =>
      obtain ⟨done, hstands⟩ := ih
      obtain ⟨e, hnext⟩ := hstands.goes hgoes
      exact ⟨_, hnext⟩

/-- A sweep has asked no more than five questions for each live transaction. -/
theorem Stands.length_le (h : x.Stands w p now s store done) :
    x.asked.length ≤ 5 * s.gateway.watchlist.live.length := by
  rw [h.asked_eq, List.length_map]
  obtain ⟨⟨g, progress⟩, -, hreaches⟩ := h.reaches
  cases progress with
  | waiting sw => exact hreaches.1.underway.length_le
  | ended n => exact hreaches.1.length_le

/-- A sweep that has not ended waits for an answer. -/
theorem Stands.exists_query (h : x.Stands w p now s store done) (hrunning : x.ending = none) :
    ∃ slot q, (slot, q) ∈ x.system.queries s.opened := by
  obtain ⟨⟨g, progress⟩, hshows, hreaches⟩ := h.reaches
  cases progress with
  | waiting sw =>
      obtain ⟨-, -, hcall⟩ := hshows
      obtain ⟨⟨j, c⟩, hmem⟩ := List.exists_mem_of_ne_nil _ hreaches.2
      refine ⟨j, c.query, ?_⟩
      simp only [System.queries, hcall, Call.queries, Sweep.queries]
      exact List.mem_map.mpr ⟨(j, c), hmem, rfl⟩
  | ended n =>
      obtain ⟨-, hended, -⟩ := hshows
      rw [hended] at hrunning
      cases hrunning

/-- Every sweep can be carried through. -/
theorem exists_ended (h : x.Stands w p now s store done) :
    ∃ y, Relation.ReflTransGen (Goes w p now s.opened) x y ∧ y.ending ≠ none := by
  -- With each answer there is one less that the sweep can still wait for.
  induction hleft : 5 * s.gateway.watchlist.live.length - x.asked.length
    using Nat.strong_induction_on generalizing x done with
  | _ left ih =>
      by_cases hrunning : x.ending = none
      · obtain ⟨slot, q, hq⟩ := h.exists_query hrunning
        have hgoes : Goes w p now s.opened x (x.answered w p now s.opened slot q) :=
          ⟨slot, q, hq, rfl⟩
        obtain ⟨e, hnext⟩ := h.goes hgoes
        have hlength : (x.answered w p now s.opened slot q).asked.length = x.asked.length + 1 := by
          simp [answered]
        have hle := hnext.length_le
        obtain ⟨y, hrun, hended⟩ := ih _ (by omega) hnext rfl
        exact ⟨y, hrun.head hgoes, hended⟩
      · exact ⟨x, .refl, hrunning⟩

/-- What a sweep that has ended has come to. -/
structure Swept (w : Tidings) (p : Policy) (now : Timestamp) (s : System)
    (store : Table TxHash Record) (x : Passage) : Prop where
  /-- Every live transaction was polled once, and no other one. -/
  polled_once : ∀ h, x.asked.count (.receipt h) =
    if (s.gateway.watchlist.lookup? h).any Record.isLive then 1 else 0
  /-- The transaction itself was asked for, once, where the receipt left something open. -/
  asked_on : ∀ h, x.asked.count (.transaction h) =
    if (s.gateway.watchlist.lookup? h).any fun r => r.isLive && w.asksOn p now r then 1 else 0
  /-- The chain was asked for nothing else. -/
  asked_only : ∀ q ∈ x.asked, q.isOutward = true → ∃ h, q = .receipt h ∨ q = .transaction h
  /-- The sweep tells how many live transactions came to an outcome. -/
  counted : x.ending = some (.ofValue (.counted (s.gateway.watchlist.live.countP fun h =>
    (x.system.gateway.watchlist.lookup? h).any (·.status.isFinal))))
  /-- Each live record is as its own poll has left it, and the others are as they were. -/
  lookup?_eq : ∀ h, x.system.gateway.watchlist.lookup? h =
    (s.gateway.watchlist.lookup? h).map fun r => if r.isLive then w.polled p now r else r
  /-- A poll that fails changes nothing. -/
  failed : ∀ h r, s.gateway.watchlist.lookup? h = some r → w.Fails p now r →
    x.system.gateway.watchlist.lookup? h = some r ∧ x.store.get? h = store.get? h
  /-- The same transactions use the same nonces. -/
  holders_eq : x.system.gateway.watchlist.holders = s.gateway.watchlist.holders
  /-- Each ledger is relieved of the nonces of the dropped transactions of its account. -/
  ledgers : ∀ a, Option.Rel
    (fun l t => l.Relieved (s.gateway.HasDropped x.system.gateway a) t)
    (s.gateway.ledgers.get? a) (x.system.gateway.ledgers.get? a)
  /-- The store holds the records that have become final, as far as it takes them. -/
  stored : ∀ h, x.store.get? h =
    if (s.gateway.watchlist.lookup? h).any Record.isLive &&
        (x.system.gateway.watchlist.lookup? h).any (·.status.isFinal) && (w.fault? h).isNone then
      x.system.gateway.watchlist.lookup? h
    else store.get? h

/-- A sweep that has ended has done all errands. -/
theorem Stands.swept (h : x.Stands w p now s store done) (hkeyed : s.gateway.watchlist.Keyed)
    (hordered : ∀ a, (s.gateway.ledger a).Ordered) (hended : x.ending ≠ none) :
    x.Swept w p now s store := by
  obtain ⟨hasked, hstore, ⟨g, progress⟩, hshows, hreaches⟩ := h
  cases progress with
  | waiting sw => exact absurd hshows.2.1 hended
  | ended n =>
      obtain ⟨rfl, hending, -⟩ := hshows
      obtain ⟨hs, rfl⟩ := hreaches
      rw [hs.countP_isSave] at hending
      have hstored := hs.stored hkeyed store
      rw [← hasked, ← hstore] at hstored
      refine ⟨?_, ?_, ?_, hending, hs.lookup?_eq, ?_, hs.holders_eq, hs.relieved hordered, hstored⟩
      · rw [hasked]
        exact hs.count_receipt hkeyed
      · rw [hasked]
        exact hs.count_transaction hkeyed
      · rw [hasked]
        exact fun q hq houtward => hs.asked_of_isOutward hq houtward
      · intro k r hr hfails
        have hsame : x.system.gateway.watchlist.lookup? k = some r := by
          rw [hs.lookup?_eq, hr, Option.map_some, hfails.polled_eq, ite_self]
        refine ⟨hsame, ?_⟩
        rw [hstored, hr, hsame, if_neg]
        simp only [Option.any_some, Record.isLive]
        cases r.status.isFinal <;> simp

/-- The order in which the records are listed makes no difference to what they are. -/
theorem Swept.of_relist {records : Table TxHash Record}
    (hperm : records.entries.Perm s.gateway.watchlist.records.entries)
    (h : x.Swept w p now (s.relist records) store) : x.Swept w p now s store := by
  have hlookup := System.lookup?_relist hperm
  have hdropped : ∀ g, (s.relist records).gateway.HasDropped g = s.gateway.HasDropped g := by
    intro g
    funext a n
    simp only [Gateway.HasDropped, hlookup]
  have hlive : (s.relist records).gateway.watchlist.live.Perm s.gateway.watchlist.live :=
    hperm.filterMap _
  obtain ⟨honce, hon, honly, hcounted, heq, hfailed, hholders, hledgers, hstored⟩ := h
  simp only [hlookup, hdropped] at honce hon heq hfailed hledgers hstored
  rw [hlive.countP_eq] at hcounted
  exact ⟨honce, hon, honly, hcounted, heq, hfailed, hholders, hledgers, hstored⟩

/-- Two sweeps have come to the same. -/
structure Agrees (x x' : Passage) : Prop where
  /-- They tell the same number. -/
  ending_eq : x'.ending = x.ending
  /-- The records are the same. -/
  lookup?_eq : ∀ h, x'.system.gateway.watchlist.lookup? h = x.system.gateway.watchlist.lookup? h
  /-- The same transactions use the same nonces. -/
  holders_eq : x'.system.gateway.watchlist.holders = x.system.gateway.watchlist.holders
  /-- The ledgers are the same. -/
  ledgers_eq : ∀ a, x'.system.gateway.ledgers.get? a = x.system.gateway.ledgers.get? a
  /-- The store holds the same. -/
  stored_eq : ∀ h, x'.store.get? h = x.store.get? h

variable {x' : Passage} {w' : Tidings} {h : TxHash}

/-- What a sweep has come to is determined by what there was and what the chain tells. -/
theorem Swept.agrees (hx : x.Swept w p now s store) (hx' : x'.Swept w p now s store) :
    x.Agrees x' := by
  have hlookup : ∀ h, x'.system.gateway.watchlist.lookup? h =
      x.system.gateway.watchlist.lookup? h := fun h => by
    rw [hx.lookup?_eq, hx'.lookup?_eq]
  have hdropped : s.gateway.HasDropped x'.system.gateway =
      s.gateway.HasDropped x.system.gateway := by
    funext a n
    simp only [Gateway.HasDropped, hlookup]
  refine ⟨?_, hlookup, hx'.holders_eq.trans hx.holders_eq.symm, fun a => ?_, fun h => ?_⟩
  · rw [hx.counted, hx'.counted]
    simp only [hlookup]
  · have hledgers := hx'.ledgers a
    rw [hdropped] at hledgers
    exact Ledger.Relieved.rel_unique (hx.ledgers a) hledgers
  · rw [hx.stored, hx'.stored, hlookup]

/-- What becomes of a transaction does not depend on what is told about others. -/
theorem Swept.undisturbed (hx : x.Swept w p now s store) (hx' : x'.Swept w' p now s store)
    (hkeyed : s.gateway.watchlist.Keyed) (hlike : w.SaysAs w' h) :
    x'.system.gateway.watchlist.lookup? h = x.system.gateway.watchlist.lookup? h ∧
      x'.store.get? h = x.store.get? h := by
  have hlookup : x'.system.gateway.watchlist.lookup? h =
      x.system.gateway.watchlist.lookup? h := by
    rw [hx.lookup?_eq, hx'.lookup?_eq]
    cases hr : s.gateway.watchlist.lookup? h with
    | none => rfl
    | some r =>
        obtain rfl : r.hash = h := hkeyed h r hr
        rw [Option.map_some, Option.map_some, hlike.polled_eq]
  refine ⟨hlookup, ?_⟩
  rw [hx.stored, hx'.stored, hlookup, hlike.fault?_eq]

/-- How far a sweep of a system can have come, beside what a store holds at first. -/
def Sweeps (w : Tidings) (p : Policy) (now : Timestamp) (s : System) (store : Table TxHash Record)
    (x : Passage) : Prop :=
  Relation.ReflTransGen (Goes w p now s.opened) (outset p now s store) x

section

variable {ms : List Moment} {records : Table TxHash Record}

/-- A sweep after a run, however the records are listed, has done some errands. -/
theorem Sweeps.exists_stands
    (hrun : Sweeps w p now ((System.after p ms).relist records) store x)
    (hperm : records.entries.Perm (System.after p ms).gateway.watchlist.records.entries) :
    ∃ done, x.Stands w p now ((System.after p ms).relist records) store done :=
  Passage.exists_stands ((System.sound_after p ms).get?_opened le_rfl)
    ((System.keyed_after p ms).relist hperm) hrun

theorem Sweeps.swept
    (hrun : Sweeps w p now ((System.after p ms).relist records) store x)
    (hperm : records.entries.Perm (System.after p ms).gateway.watchlist.records.entries)
    (hended : x.ending ≠ none) : x.Swept w p now (System.after p ms) store := by
  obtain ⟨done, hstands⟩ := hrun.exists_stands hperm
  have hswept := hstands.swept ((System.keyed_after p ms).relist hperm)
    (System.ordered_after p ms) hended
  exact hswept.of_relist hperm

end

/-- However the records of a system are listed that a run has come to, and whichever poll goes on
next, a sweep asks a bounded number of questions, waits for an answer as long as it has not ended,
and can be carried through. When it has ended, it has polled each live transaction once and has come
to what the chain tells of it. Every other sweep of the same records comes to the same, and leaves
alone the outcome of a transaction of which the chain tells the same even if it tells something else
about others. -/
theorem swept_in_any_order (p : Policy) (ms : List Moment) (w : Tidings) (now : Timestamp)
    (store : Table TxHash Record) {records : Table TxHash Record}
    (hperm : records.entries.Perm (System.after p ms).gateway.watchlist.records.entries) :
    let s := System.after p ms
    (∀ x, Sweeps w p now (s.relist records) store x →
      x.asked.length ≤ 5 * s.gateway.watchlist.live.length ∧
        (x.ending = none → ∃ slot q, (slot, q) ∈ x.system.queries s.opened) ∧
        ∃ y, Relation.ReflTransGen (Goes w p now s.opened) x y ∧ y.ending ≠ none) ∧
      ∀ x, Sweeps w p now (s.relist records) store x → x.ending ≠ none →
        x.Swept w p now s store ∧
          ∀ records' : Table TxHash Record,
            records'.entries.Perm s.gateway.watchlist.records.entries →
              (∀ x', Sweeps w p now (s.relist records') store x' → x'.ending ≠ none →
                x.Agrees x') ∧
              ∀ w' x', Sweeps w' p now (s.relist records') store x' → x'.ending ≠ none →
                ∀ h, w.SaysAs w' h →
                  x'.system.gateway.watchlist.lookup? h = x.system.gateway.watchlist.lookup? h ∧
                    x'.store.get? h = x.store.get? h := by
  intro s
  refine ⟨fun x hrun => ?_, fun x hrun hended => ?_⟩
  · obtain ⟨done, hstands⟩ := hrun.exists_stands hperm
    have hlive : (s.relist records).gateway.watchlist.live.Perm s.gateway.watchlist.live :=
      hperm.filterMap _
    have hle := hstands.length_le
    rw [hlive.length_eq] at hle
    have hcarried := exists_ended hstands
    exact ⟨hle, hstands.exists_query, hcarried⟩
  · have hx := hrun.swept hperm hended
    refine ⟨hx, fun records' hperm' => ⟨fun x' hrun' hended' => ?_, ?_⟩⟩
    · exact hx.agrees (hrun'.swept hperm' hended')
    · intro w' x' hrun' hended' h hlike
      exact hx.undisturbed (hrun'.swept hperm' hended') (System.keyed_after p ms) hlike

/-- The sweep when the polls with these numbers go on, one after another. -/
def follow (w : Tidings) (p : Policy) (now : Timestamp) (i : Nat) (x : Passage) :
    List Nat → Passage
  | [] => x
  | slot :: rest => match (x.system.queries i).find? fun entry => entry.1 = slot with
    | some (_, q) => (x.answered w p now i slot q).follow w p now i rest
    | none => x

theorem runs_follow (x : Passage) (slots : List Nat) :
    Relation.ReflTransGen (Goes w p now i) x (x.follow w p now i slots) := by
  induction slots generalizing x with
  | nil => exact .refl
  | cons slot rest ih =>
      rw [follow]
      split
      · rename_i j q hfind
        have hslot : j = slot := by simpa using List.find?_some hfind
        subst hslot
        exact (ih _).head ⟨j, q, List.mem_of_find?_eq_some hfind, rfl⟩
      · exact .refl

end

/-- A run in which four transactions of an account are recovered, with the nonces from 5 on. -/
def recoveryOfFour (a : Address) : List Moment :=
  let records := [5, 6, 7, 8].map fun n => Record.fresh ⟨0⟩ ⟨⟨n⟩, a, n, ⟨BitVec.ofNat 256 n⟩⟩
  [.start (.recover []), .reply 0 0 (.accounts [a]), .reply 0 0 (.count 5), .reply 0 0 .done,
    .reply 0 0 (.records records), .reply 0 0 .done, .reply 0 0 .done, .reply 0 0 .done,
    .reply 0 0 .done].map fun e => ⟨⟨0⟩, .event e⟩

/-- The first of them is confirmed, for the second one the chain is silent, and the other two are
unknown. The store does not take the last one. -/
def fourTidings : Tidings where
  receipt h :=
    if h = ⟨5⟩ then .told (some ⟨some 1, 21000, true, none⟩)
    else if h = ⟨6⟩ then .silent
    else .told none
  body _ := .told none
  fault? h := if h = ⟨8⟩ then some (.database .closed) else none

/-- A table whose entries are listed from the last one on. -/
def backwards (t : Table TxHash Record) : Table TxHash Record where
  entries := t.entries.reverse
  nodup := by
    rw [List.map_reverse, List.nodup_reverse]
    exact t.nodup

/-- They are swept after ten minutes, listed from the last one on; the polls take turns. -/
def sweepOfFour : Passage :=
  let s := System.after {} (recoveryOfFour ⟨0⟩)
  let now : Timestamp := ⟨(Duration.ofSeconds 601).nanos⟩
  (outset {} now (s.relist (backwards s.gateway.watchlist.records)) ∅).follow fourTidings {} now
    s.opened [0, 1, 2, 3, 0, 1, 3, 1, 0, 0, 1, 0, 1]

theorem sweepOfFour_ended : sweepOfFour.ending = some (.ofValue (.counted 3)) := by
  rfl

/-- In that sweep three come to an outcome. The two that are dropped give their nonces back, so that
the next nonce is 7, and so they do in every sweep that lists them from the first one on. -/
theorem two_dropped_in_any_order :
    let s := System.after {} (recoveryOfFour ⟨0⟩)
    let now : Timestamp := ⟨(Duration.ofSeconds 601).nanos⟩
    (backwards s.gateway.watchlist.records).entries.Perm s.gateway.watchlist.records.entries ∧
      Sweeps fourTidings {} now (s.relist (backwards s.gateway.watchlist.records)) ∅ sweepOfFour ∧
      sweepOfFour.ending = some (.ofValue (.counted 3)) ∧
      sweepOfFour.Swept fourTidings {} now s ∅ ∧
      sweepOfFour.system.gateway.ledgers.get? ⟨0⟩ = some ⟨7, [5, 6], 5, none, true⟩ ∧
      sweepOfFour.store.keys = [⟨5⟩, ⟨7⟩] ∧
      ∀ x, Sweeps fourTidings {} now (s.relist s.gateway.watchlist.records) ∅ x →
        x.ending ≠ none → sweepOfFour.Agrees x := by
  intro s now
  have hperm : (backwards s.gateway.watchlist.records).entries.Perm
      s.gateway.watchlist.records.entries := List.reverse_perm _
  have hrun : Sweeps fourTidings {} now (s.relist (backwards s.gateway.watchlist.records)) ∅
      sweepOfFour := runs_follow _ _
  have hended : sweepOfFour.ending ≠ none := by
    rw [sweepOfFour_ended]
    exact Option.some_ne_none _
  obtain ⟨hswept, hall⟩ := (swept_in_any_order {} (recoveryOfFour ⟨0⟩) fourTidings now ∅
    hperm).2 sweepOfFour hrun hended
  have hledger : sweepOfFour.system.gateway.ledgers.get? ⟨0⟩ =
      some ⟨7, [5, 6], 5, none, true⟩ := by
    decide +kernel
  have hstore : sweepOfFour.store.keys = [⟨5⟩, ⟨7⟩] := by decide +kernel
  exact ⟨hperm, hrun, sweepOfFour_ended, hswept, hledger, hstore,
    (hall s.gateway.watchlist.records (List.Perm.refl _)).1⟩

end Passage

end TxGateway
