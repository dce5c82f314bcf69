import TxGateway.Proofs.Owing
import TxGateway.Rehearsal.Store

/-!
# The store catches up with the watchlist

A run of submissions, polls and sweeps with a store that takes every record. When nobody owes the
store a record of a watched transaction, the store tells of it what the watchlist tells, unless the
last write was late, so that the watched record had changed in the meantime, or a call was dropped
with a record that it owed. A final status is replaced by an open one only by a late write, or after
the transaction was forgotten.
-/

namespace TxGateway

open Rehearsal (Store)

/-- Whether a moment belongs to a run of submissions, polls on behalf of clients and sweeps with a
store that takes every record. -/
def Moment.IsServed (s : System) (m : Moment) : Prop :=
  match m.what with
  | .event (.start t) => t.isTidy = true
  | .event (.reply i slot (.failed _)) => ∀ c, s.calls.get? i = some c → c.write? slot = none
  | _ => True

theorem Moment.IsServed.isTidy {s : System} {m : Moment} (h : m.IsServed s) (t : Task)
    (hm : m.what = .event (.start t)) : t.isTidy = true := by
  rw [IsServed, hm] at h
  exact h

theorem Moment.IsServed.isOrderly {s : System} {m : Moment} (h : m.IsServed s) : m.IsOrderly := by
  obtain ⟨now, what⟩ := m
  cases what with
  | event e =>
      cases e with
      | start t => exact Task.isOrderly_of_isTidy (h.isTidy t rfl)
      | _ => trivial
  | _ => trivial

section

variable {g g' : Gateway} {t : Option (Address × Turn)} {mine mine' : Multiset Token}

/-- A final status stays as long as the transaction is watched. -/
theorem Move.status_of_final (hmove : Move g g' t mine mine') {h : TxHash} {r r' : Record}
    (hr : g.watchlist.lookup? h = some r) (hfinal : r.status.isFinal = true)
    (hr' : g'.watchlist.lookup? h = some r') : r'.status = r.status := by
  have hsame : g'.watchlist = g.watchlist → r'.status = r.status := by
    intro heq
    rw [heq, hr] at hr'
    cases hr'
    rfl
  cases hmove with
  | keep steady turn le => exact hsame steady.watchlist_eq
  | grant steady turn got => exact hsame steady.watchlist_eq
  | back steady turn => exact hsame steady.watchlist_eq
  | issue watchlist_eq issued_eq turn => exact hsame watchlist_eq
  | enter entered issued_eq turn =>
      obtain ⟨hnew, hlookup⟩ := Watchlist.lookup?_of_enter entered
      rw [hlookup] at hr'
      split at hr'
      · rename_i heq
        rw [← heq, hr] at hnew
        cases hnew
      · cases hr.symm.trans hr'
        rfl
  | poll polled issued_eq turn le =>
      rw [Watchlist.lookup?_of_polled polled] at hr'
      split at hr'
      · rename_i heq
        subst heq
        cases hr'
        obtain ⟨r₁, hr₁, -, -, hrecord, -⟩ := Watchlist.polled?_eq_some polled
        obtain rfl := Option.some.inj (hr.symm.trans hr₁)
        simp [hrecord, Record.isLive, hfinal]
      · cases hr.symm.trans hr'
        rfl
  | purge purged issued_eq turn =>
      rw [purged, Watchlist.lookup?_purge, Option.filter_eq_some_iff] at hr'
      cases hr.symm.trans hr'.1
      rfl

end

namespace System

/-- Somebody owes the store a record of a transaction. -/
def Owes (h : TxHash) (s : System) : Prop := ∃ i c, s.calls.get? i = some c ∧ c.Owes h

/-- The record that a moment writes to the store. -/
def write? (s : System) (m : Moment) : Option Record :=
  match m.what with
  | .event (.reply i slot .done) => (s.calls.get? i).bind (·.write? slot)
  | _ => none

/-- A moment writes a record to the store. -/
def Writes (r : Record) (s : System) (m : Moment) : Prop := s.write? m = some r

/-- A call is dropped, or breaks off, while it owes the store a record of a transaction. -/
def Loses (p : Policy) (h : TxHash) (s : System) (m : Moment) : Prop :=
  ∃ i c, s.calls.get? i = some c ∧ c.Owes h ∧ Drops p i s m

/-- A record is out of date: its transaction is not watched, or the watchlist tells something else
of it. -/
def Late (r : Record) (s : System) : Prop :=
  ∀ r', s.gateway.watchlist.lookup? r.hash = some r' → ¬ r.Agrees r'

/-- What a store holds just before a moment of a run with a number. -/
def storeUpTo (p : Policy) (store : Store) (ms : List Moment) : Nat → Store
  | 0 => store
  | k + 1 => match ms[k]?.bind (upTo p ms k).write? with
    | some r => (storeUpTo p store ms k).save r
    | none => storeUpTo p store ms k

section

variable {p : Policy} {s : System} {m : Moment} {h : TxHash} {r' : Record}

/-- A debt ends when a record of that hash is written or when its call is dropped. -/
theorem Owes.pass (howes : Owes h s) (hs : s.Tidy) (hm : m.IsServed s) :
    Owes h (s.pass p m) ∨ (∃ r, s.write? m = some r ∧ r.hash = h) ∨ Loses p h s m := by
  obtain ⟨i, c, hget, hc⟩ := howes
  rcases get?_pass_cases hget (hs.lt_opened i c hget) p m with
    ⟨hdrops, -⟩ | hstays | ⟨slot, reply, hwhat, hcrash, -, hnext⟩
  · exact .inr (.inr ⟨i, c, hget, hc, hdrops⟩)
  · exact .inl ⟨i, c, hstays, hc⟩
  · obtain ⟨now, what⟩ := m
    subst hwhat
    obtain ⟨j, r, hr, hhash⟩ := hc
    cases c.pays p now s.gateway reply (hs.each i c hget).1 hr slot with
    | written write_eq reply_eq =>
        subst reply_eq
        refine .inr (.inl ⟨r, ?_, hhash⟩)
        simp only [write?, hget, Option.bind_some, write_eq]
    | refused write_eq e reply_eq =>
        subst reply_eq
        cases (hm c hget).symm.trans write_eq
    | owed d waits owes =>
        rw [waits] at hnext
        exact .inl ⟨i, d, hnext, j, r, owes, hhash⟩

/-- What a dropped submission enters in the watchlist it leaves to a chore to be stored. -/
theorem owes_of_abandon (s : System) (i : Nat)
    (hr' : (s.abandon i).1.gateway.watchlist.lookup? h = some r') :
    (∃ r, s.gateway.watchlist.lookup? h = some r ∧ r.Agrees r') ∨ Owes h (s.abandon i).1 := by
  have hsame : (s.abandon i).1.gateway.watchlist = s.gateway.watchlist →
      ∃ r, s.gateway.watchlist.lookup? h = some r ∧ r.Agrees r' := by
    intro heq
    exact ⟨r', heq ▸ hr', .refl r'⟩
  rcases s.watchlist_abandon i with heq | ⟨sent, request, raw, hget⟩
  · exact .inl (hsame heq)
  · rcases s.gateway.watch_cases sent with ⟨g', hwatch, hentered, -⟩ | ⟨g', _, hwatch, -, hsteady⟩
    · have habandon : (s.abandon i).1 = ({ s with
          gateway := g', calls := s.calls.erase i } : System).enroll (.chore (.saving sent)) := by
        simp [abandon, hget, Call.abandon, Submit.abandon, hwatch, enrollChores]
      rw [habandon] at hr' ⊢
      change g'.watchlist.lookup? h = some r' at hr'
      rw [(Watchlist.lookup?_of_enter hentered).2] at hr'
      split at hr'
      · rename_i heq
        exact .inr ⟨s.opened, _, Table.get?_set_self _ _ _, 0, sent, rfl, heq.symm⟩
      · exact .inl ⟨r', hr', .refl r'⟩
    · refine .inl (hsame ?_)
      simp [abandon, hget, Call.abandon, Submit.abandon, hwatch, enrollChores,
        hsteady.watchlist_eq]

/-- Whatever changes in the watchlist in a tidy run, somebody owes it to the store. -/
theorem owes_of_changed (hs : s.Tidy) (hk : s.gateway.watchlist.Keyed)
    (hr' : (s.pass p m).gateway.watchlist.lookup? h = some r') :
    (∃ r, s.gateway.watchlist.lookup? h = some r ∧ r.Agrees r') ∨ Owes h (s.pass p m) := by
  have hsame : (s.pass p m).gateway.watchlist = s.gateway.watchlist →
      (∃ r, s.gateway.watchlist.lookup? h = some r ∧ r.Agrees r') ∨ Owes h (s.pass p m) := by
    intro heq
    exact .inl ⟨r', heq ▸ hr', .refl r'⟩
  obtain ⟨now, what⟩ := m
  cases what with
  | event e =>
      cases e with
      | start t =>
          apply hsame
          rw [← Call.watchlist_start p now s.gateway t]
          simp only [pass, step, start]
          split <;> simp [*, enroll]
      | abandon i => exact s.owes_of_abandon i hr'
      | reply i slot reply =>
          cases hget : s.calls.get? i with
          | none =>
              apply hsame
              simp only [pass, step, System.reply, hget]
          | some c =>
              have hbacks := c.backs p now reply (hs.each i c hget) hk slot
              simp only [pass, step, System.reply, hget] at hr' ⊢
              split at hr' <;> rename_i g d hd <;> rw [hd] at hbacks
              · rcases hbacks h r' hr' with hagrees | ⟨d', heq, howes⟩
                · exact .inl hagrees
                · cases heq
                  exact .inr ⟨i, d, Table.get?_set_self _ _ _, howes⟩
              · rcases owes_of_abandon _ i hr' with ⟨r, hr, hagrees⟩ | howes
                · rcases hbacks h r hr with ⟨r₀, hr₀, hagrees₀⟩ | ⟨d', heq, -⟩
                  · exact .inl ⟨r₀, hr₀, hagrees₀.trans hagrees⟩
                  · cases heq
                · exact .inr howes
              · rcases hbacks h r' hr' with hagrees | ⟨d', heq, -⟩
                · exact .inl hagrees
                · cases heq
  | evict olderThan =>
      cases hevict : s.gateway.evict now olderThan with
      | error crash => exact hsame (by simp only [pass, hevict])
      | ok x =>
          obtain ⟨g, n⟩ := x
          rcases Gateway.purged_of_evict hevict with rfl | ⟨cutoff, rfl⟩
          · exact hsame (by simp only [pass, hevict])
          · simp only [pass, hevict] at hr'
            rw [Watchlist.lookup?_purge, Option.filter_eq_some_iff] at hr'
            exact .inl ⟨r', hr'.1, .refl r'⟩
  | close => exact hsame rfl

end

/-- How the store stands, just before a moment of a run with a number, with a transaction that is
watched with a record and that nobody owes to it. -/
inductive CatchesUp (p : Policy) (store : Store) (ms : List Moment) (k : Nat) (h : TxHash)
    (r : Record) : Prop
  /-- It tells of the transaction what the watchlist tells. -/
  | stored (x : Record) (get_eq : (storeUpTo p store ms k).records.get? h = some x)
      (agrees : x.Agrees r)
  /-- The last write of the transaction was late. -/
  | late (x : Record) (hash_eq : x.hash = h) (j : Nat) (lt : j < k) (writes : At p ms j (Writes x))
      (late : Late x (upTo p ms j))
      (last : ∀ i, j < i → i < k → ∀ y, At p ms i (Writes y) → y.hash ≠ h)
  /-- A call was dropped with a record of the transaction that it owed, and none has been written
  since. -/
  | lost (j : Nat) (lt : j < k) (loses : At p ms j (Loses p h))
      (last : ∀ i, j < i → i < k → ∀ y, At p ms i (Writes y) → y.hash ≠ h)

section

variable {p : Policy} {store : Store} {ms : List Moment} {k : Nat} {m : Moment} {h : TxHash}
  {r r' : Record}

theorem storeUpTo_succ (hm : ms[k]? = some m) :
    storeUpTo p store ms (k + 1) =
      match (upTo p ms k).write? m with
      | some r => (storeUpTo p store ms k).save r
      | none => storeUpTo p store ms k := by
  simp only [storeUpTo, hm, Option.bind_some]

/-- A write puts its record under its hash, and nothing else changes in the store. -/
theorem get?_storeUpTo_succ (hm : ms[k]? = some m) (h : TxHash) :
    ((∃ x, (upTo p ms k).write? m = some x ∧ x.hash = h ∧
        (storeUpTo p store ms (k + 1)).records.get? h = some x) ∨
      (∀ x, (upTo p ms k).write? m = some x → x.hash ≠ h) ∧
        (storeUpTo p store ms (k + 1)).records.get? h =
          (storeUpTo p store ms k).records.get? h) := by
  rw [storeUpTo_succ hm]
  cases hwrite : (upTo p ms k).write? m with
  | none => exact .inr ⟨fun x hx => (Option.some_ne_none x hx.symm).elim, rfl⟩
  | some x =>
      simp only [Store.save, Table.get?_set]
      by_cases hh : h = x.hash
      · exact .inl ⟨x, rfl, hh.symm, if_pos hh⟩
      · refine .inr ⟨fun y hy => ?_, if_neg hh⟩
        cases hy
        exact Ne.symm hh

theorem CatchesUp.of_agrees (hc : CatchesUp p store ms k h r) (hr : r.Agrees r') :
    CatchesUp p store ms k h r' := by
  cases hc with
  | stored x get_eq agrees => exact .stored x get_eq (agrees.trans hr)
  | late x hash_eq j lt writes hlate last => exact .late x hash_eq j lt writes hlate last
  | lost j lt loses last => exact .lost j lt loses last

/-- A moment that writes no record of a transaction leaves the store as it stands with it. -/
theorem CatchesUp.succ (hc : CatchesUp p store ms k h r) (hm : ms[k]? = some m)
    (hno : ∀ x, (upTo p ms k).write? m = some x → x.hash ≠ h)
    (hget : (storeUpTo p store ms (k + 1)).records.get? h =
      (storeUpTo p store ms k).records.get? h) :
    CatchesUp p store ms (k + 1) h r := by
  have hlast : ∀ j, (∀ i, j < i → i < k → ∀ y, At p ms i (Writes y) → y.hash ≠ h) →
      ∀ i, j < i → i < k + 1 → ∀ y, At p ms i (Writes y) → y.hash ≠ h := by
    intro j last i hji hik y hy
    rcases Nat.lt_or_eq_of_le (Nat.le_of_lt_succ hik) with hlt | rfl
    · exact last i hji hlt y hy
    · obtain ⟨m', hm', hwrites⟩ := hy
      cases hm.symm.trans hm'
      exact hno y hwrites
  cases hc with
  | stored x get_eq agrees => exact .stored x (hget.trans get_eq) agrees
  | late x hash_eq j lt writes hlate last =>
      exact .late x hash_eq j (Nat.lt_succ_of_lt lt) writes hlate (hlast j last)
  | lost j lt loses last => exact .lost j (Nat.lt_succ_of_lt lt) loses (hlast j last)

/-- Every moment of a run is served by the store. -/
def IsServedRun (p : Policy) (ms : List Moment) : Prop :=
  ∀ k (m : Moment), ms[k]? = some m → m.IsServed (upTo p ms k)

/-- In a served run the calls are tidy, and records stand under their own hashes. -/
theorem IsServedRun.sound (hms : IsServedRun p ms) (hk : k ≤ ms.length) :
    (upTo p ms k).Tidy ∧ (upTo p ms k).gateway.watchlist.Keyed := by
  apply upTo_induction (P := fun _ s => s.Tidy ∧ s.gateway.watchlist.Keyed) (Nat.zero_le k) hk
  · exact ⟨callsAre_zero, Watchlist.keyed_empty⟩
  · intro j m _ _ hm ⟨htidy, hkeyed⟩
    have hserved := hms j m hm
    exact ⟨htidy.pass_of_started p hserved.isTidy,
      (move_pass htidy.orderly p hserved.isOrderly).keyed hkeyed⟩

/-- At every moment of a served run a watched transaction is owed to the store, or the store has
caught up with it. -/
theorem owes_or_catchesUp (store : Store) (hms : IsServedRun p ms) (hk : k ≤ ms.length)
    (hr : (upTo p ms k).gateway.watchlist.lookup? h = some r) :
    Owes h (upTo p ms k) ∨ CatchesUp p store ms k h r := by
  induction k generalizing r with
  | zero => cases hr
  | succ k ih =>
      have hm : ms[k]? = some ms[k] := List.getElem?_eq_getElem hk
      obtain ⟨htidy, hkeyed⟩ := hms.sound (Nat.le_of_succ_le hk)
      rw [upTo_succ hm] at hr ⊢
      rcases owes_of_changed htidy hkeyed hr with ⟨r₀, hr₀, hagrees⟩ | howes
      · rcases get?_storeUpTo_succ hm h with ⟨x, hwrite, hhash, hget⟩ | ⟨hno, hget⟩
        · -- Whatever was owed, the store has the record of this moment.
          right
          by_cases hx : x.Agrees r
          · exact .stored x hget hx
          · refine .late x hhash k (Nat.lt_succ_self k) ⟨_, hm, hwrite⟩ ?_ fun i hki hik => ?_
            · intro r₁ hr₁ hx₁
              rw [hhash, hr₀] at hr₁
              cases hr₁
              exact hx (hx₁.trans hagrees)
            · omega
        · rcases ih (Nat.le_of_succ_le hk) hr₀ with howes | hcaught
          · rcases howes.pass htidy (hms k _ hm) with hstill | ⟨x, hwrite, hhash⟩ | hloses
            · exact .inl hstill
            · exact absurd hhash (hno x hwrite)
            · refine .inr (.lost k (Nat.lt_succ_self k) ⟨_, hm, hloses⟩ fun i hki hik => ?_)
              omega
          · exact .inr ((hcaught.succ hm hno hget).of_agrees hagrees)
      · exact .inl howes

/-- A final status stays in a served run as long as the transaction is watched. -/
theorem status_of_final (hms : IsServedRun p ms) {i j : Nat} (hij : i ≤ j) (hj : j ≤ ms.length)
    (hr : (upTo p ms i).gateway.watchlist.lookup? h = some r) (hfinal : r.status.isFinal = true)
    (hwatched : ∀ l, i < l → l ≤ j → (upTo p ms l).gateway.watchlist.lookup? h ≠ none) :
    ∃ r', (upTo p ms j).gateway.watchlist.lookup? h = some r' ∧ r'.status = r.status := by
  apply upTo_induction (P := fun _ s => ∃ r', s.gateway.watchlist.lookup? h = some r' ∧
    r'.status = r.status) hij hj ⟨r, hr, rfl⟩
  rintro k m hik hkj hm ⟨r₁, hr₁, hsame⟩
  obtain ⟨htidy, -⟩ := hms.sound (le_length hm)
  have hstill := hwatched (k + 1) (Nat.lt_succ_of_le hik) hkj
  rw [upTo_succ hm] at hstill
  obtain ⟨r₂, hr₂⟩ := Option.ne_none_iff_exists'.mp hstill
  have hmove := move_pass htidy.orderly p (hms k m hm).isOrderly
  exact ⟨r₂, hr₂, (hmove.status_of_final hr₁ (hsame ▸ hfinal) hr₂).trans hsame⟩

end

/-- In a run of submissions, polls and sweeps with a store that takes every record, in whatever
order its calls go on: the store has caught up with every watched transaction that nobody owes to
it. And if the store is told a final status of a transaction and later an open one, one of the two
was late, or the transaction had been forgotten in between. -/
theorem store_catches_up {p : Policy} {ms : List Moment} (store : Store)
    (hms : IsServedRun p ms) :
    (∀ k ≤ ms.length, ∀ h r, (upTo p ms k).gateway.watchlist.lookup? h = some r →
      ¬ Owes h (upTo p ms k) → CatchesUp p store ms k h r) ∧
      ∀ i j x y, i < j → At p ms i (Writes x) → At p ms j (Writes y) → x.hash = y.hash →
        x.status.isFinal = true → y.status = .pending →
        Late x (upTo p ms i) ∨ Late y (upTo p ms j) ∨
          ∃ l, i < l ∧ l < j ∧ (upTo p ms l).gateway.watchlist.lookup? y.hash = none := by
  refine ⟨fun k hk h r hr hno => ?_, fun i j x y hij _ hy hhash hfinal hpending => ?_⟩
  · exact (owes_or_catchesUp store hms hk hr).resolve_left hno
  · by_contra hnone
    simp only [not_or, not_exists, not_and] at hnone
    obtain ⟨hx, hy', hwatched⟩ := hnone
    simp only [Late, not_forall, not_not] at hx hy'
    obtain ⟨r, hr, hrx⟩ := hx
    obtain ⟨r', hr', hry⟩ := hy'
    obtain ⟨m, hm, -⟩ := hy
    rw [hhash] at hr
    obtain ⟨r₁, hr₁, hsame⟩ := status_of_final hms hij.le (le_length hm) hr
      (by rw [hrx.status_eq]; exact hfinal) (fun l hil hlj => by
        rcases Nat.lt_or_eq_of_le hlj with hlt | rfl
        · exact hwatched l hil hlt
        · rw [hr']
          exact Option.some_ne_none r')
    -- The watchlist cannot tell both.
    cases hr'.symm.trans hr₁
    rw [hry.status_eq, hrx.status_eq] at hsame
    rw [← hsame, hpending] at hfinal
    cases hfinal

/-- A submission of no bytes for a fresh account, up to its broadcast. -/
def firstEvents (a : Address) : List Event :=
  [.start (.submit { account := a, payload := ⟨a, [], 0, 21000⟩ }), .reply 0 0 (.count 0),
    .reply 0 0 .done, .reply 0 0 .done, .reply 0 0 .done, .reply 0 0 (.price (.legacy 1)),
    .reply 0 0 (.signed [])]

/-- A run in which a submission is dropped while it waits for its broadcast. Its transaction is
polled, and the outcome is stored before the chore that it has left stores its own record. -/
def overwrittenRun (a : Address) (receipt : Receipt) : List Moment :=
  let rest : List Event := [.abandon 0, .start (.settle (.ofRaw [])),
    .reply 2 0 (.receipt (some receipt)), .reply 2 0 .done, .reply 1 0 .done]
  (firstEvents a ++ rest).map fun e => ⟨⟨0⟩, .event e⟩

/-- A run in which a submission is dropped while its record is being stored. -/
def lostRun (a : Address) (hash : TxHash) : List Moment :=
  let rest : List Event := [.reply 0 0 (.accepted hash), .abandon 0]
  (firstEvents a ++ rest).map fun e => ⟨⟨0⟩, .event e⟩

/-- A run in which a transaction is found dropped, which is stored; then the monitor forgets it, and
the same bytes are submitted once more. -/
def forgottenRun (a : Address) (hash : TxHash) : List Moment :=
  let sent : List Event := firstEvents a ++ [.reply 0 0 (.accepted hash), .reply 0 0 .done]
  let dropped : List Event := [.start (.settle hash), .reply 1 0 (.receipt none),
    .reply 1 0 (.transaction none), .reply 1 0 .done, .reply 1 0 .done, .reply 1 0 .done]
  let again : List Event := [.start .monitor, .reply 2 0 .done, .reply 2 1 .done,
    .reply 2 0 (.count 0), .reply 2 0 .done, .reply 2 2 .done,
    .start (.submit { account := a, payload := ⟨a, [], 0, 21000⟩ }), .reply 3 0 .done,
    .reply 3 0 .done, .reply 3 0 (.price (.legacy 1)), .reply 3 0 (.signed []),
    .reply 3 0 (.accepted hash), .reply 3 0 .done]
  sent.map (fun e => ⟨⟨0⟩, .event e⟩) ++
    dropped.map (fun e => ⟨⟨(Duration.ofSeconds 601).nanos⟩, .event e⟩) ++
    again.map fun e => ⟨⟨(Duration.ofSeconds 100000).nanos⟩, .event e⟩

theorem isServedRun_of_forall {p : Policy} {ms : List Moment}
    (h : ∀ m ∈ ms, ∀ s, m.IsServed s) : IsServedRun p ms :=
  fun _ m hm => h m (List.mem_of_getElem? hm) _

theorem isServedRun_forgottenRun (a : Address) (hash : TxHash) :
    IsServedRun {} (forgottenRun a hash) :=
  isServedRun_of_forall (by simp [forgottenRun, firstEvents, Moment.IsServed, Task.isTidy])

/-- Nobody owes anything when no call is left. -/
theorem not_owes_of_empty {s : System} (hs : s.calls.entries = []) (h : TxHash) : ¬ Owes h s := by
  rintro ⟨i, c, hget, -⟩
  rw [Table.get?, hs] at hget
  cases hget

/-- In that run the store has caught up when the transaction has been found dropped. Later it is
told that the transaction is pending, after it had been forgotten. -/
theorem forgotten_caught_up :
    let ms := forgottenRun ⟨0⟩ ⟨1⟩
    IsServedRun {} ms ∧
      (∃ r, (upTo {} ms 15).gateway.watchlist.lookup? ⟨1⟩ = some r ∧ r.status = .dropped ∧
        ¬ Owes ⟨1⟩ (upTo {} ms 15) ∧ CatchesUp {} {} ms 15 ⟨1⟩ r) ∧
      ∃ x y, At {} ms 14 (Writes x) ∧ At {} ms 27 (Writes y) ∧ x.hash = y.hash ∧
        x.status = .dropped ∧ y.status = .pending ∧
        (Late x (upTo {} ms 14) ∨ Late y (upTo {} ms 27) ∨
          ∃ l, 14 < l ∧ l < 27 ∧ (upTo {} ms l).gateway.watchlist.lookup? y.hash = none) := by
  intro ms
  have hserved : IsServedRun {} ms := isServedRun_forgottenRun ⟨0⟩ ⟨1⟩
  have hquiet : ¬ Owes ⟨1⟩ (upTo {} ms 15) := not_owes_of_empty rfl ⟨1⟩
  refine ⟨hserved, ⟨_, rfl, rfl, hquiet, ?_⟩, _, _, ⟨_, rfl, rfl⟩, ⟨_, rfl, rfl⟩, rfl, rfl, rfl, ?_⟩
  · exact (store_catches_up {} hserved).1 15 (by decide) ⟨1⟩ _ rfl hquiet
  · exact (store_catches_up {} hserved).2 14 27 _ _ (by decide) ⟨_, rfl, rfl⟩ ⟨_, rfl, rfl⟩ rfl rfl
      rfl

/-- At the end of that run no call is left, the watchlist tells that the transaction is confirmed,
and so did the store before the last moment, at which it is told that the transaction is pending. -/
theorem overwritten_at_end :
    let receipt : Receipt := ⟨some 1, 21000, true, none⟩
    let ms := overwrittenRun ⟨0⟩ receipt
    (after {} ms).calls.entries.isEmpty = true ∧
      ((after {} ms).gateway.watchlist.lookup? (.ofRaw [])).map (·.status) =
        some (.confirmed receipt) ∧
      ((storeUpTo {} {} ms 11).records.get? (.ofRaw [])).map (·.status) =
        some (.confirmed receipt) ∧
      ((storeUpTo {} {} ms 12).records.get? (.ofRaw [])).map (·.status) = some .pending := by
  decide +kernel

/-- A store that takes every record can be left behind when no call is in progress any more: the
save that a dropped submission has left to a chore replaces the outcome that a poll has stored in
the meantime, and a record is never stored if its submission is dropped during the save. And a
transaction that has been forgotten can be submitted once more, which replaces its final status in
the store by an open one. -/
theorem store_left_behind :
    (let ms := overwrittenRun ⟨0⟩ ⟨some 1, 21000, true, none⟩
     IsServedRun {} ms ∧ (after {} ms).calls.entries.isEmpty = true ∧
       ((after {} ms).gateway.watchlist.lookup? (.ofRaw [])).map (·.status) =
         some (.confirmed ⟨some 1, 21000, true, none⟩) ∧
       ((storeUpTo {} {} ms 11).records.get? (.ofRaw [])).map (·.status) =
         some (.confirmed ⟨some 1, 21000, true, none⟩) ∧
       ((storeUpTo {} {} ms 12).records.get? (.ofRaw [])).map (·.status) = some .pending) ∧
    (let ms := lostRun ⟨0⟩ ⟨1⟩
     IsServedRun {} ms ∧ (after {} ms).calls.entries.isEmpty = true ∧
       ((after {} ms).gateway.watchlist.lookup? ⟨1⟩).map (·.status) = some .pending ∧
       (storeUpTo {} {} ms 9).records.get? ⟨1⟩ = none) ∧
    (let ms := forgottenRun ⟨0⟩ ⟨1⟩
     IsServedRun {} ms ∧
       ((storeUpTo {} {} ms 15).records.get? ⟨1⟩).map (·.status) = some .dropped ∧
       ((storeUpTo {} {} ms 28).records.get? ⟨1⟩).map (·.status) = some .pending) := by
  refine ⟨⟨?_, overwritten_at_end⟩, ⟨?_, rfl, rfl, rfl⟩, isServedRun_forgottenRun ⟨0⟩ ⟨1⟩, rfl, rfl⟩
  · exact isServedRun_of_forall
      (by simp [overwrittenRun, firstEvents, Moment.IsServed, Task.isTidy])
  · exact isServedRun_of_forall (by simp [lostRun, firstEvents, Moment.IsServed, Task.isTidy])

end System

end TxGateway
