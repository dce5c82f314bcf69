import TxGateway.Proofs.CallMoves
import TxGateway.Proofs.Restoring

/-!
# The index knows every live transaction

Transactions are entered, restored, polled and forgotten, in any order. As long as a hash always
stands for the same account and nonce, and no live record is restored beside another live one of the
same nonce, the entry for the nonce of a live transaction leads to it. So the watchlist refuses a
transaction exactly if its hash is watched or its nonce is used by a live one.
-/

namespace TxGateway

theorem Entries.get?_of_mem {κ α : Type} [DecidableEq κ] {e : κ × α} {es : List (κ × α)}
    (hn : (es.map Prod.fst).Nodup) (he : e ∈ es) : get? e.1 es = some e.2 := by
  induction es with
  | nil => cases he
  | cons f es ih =>
      simp only [List.map_cons, List.nodup_cons] at hn
      rcases List.mem_cons.mp he with rfl | hrest
      · simp [get?]
      · have hne : f.1 ≠ e.1 := fun heq => hn.1 (heq ▸ List.mem_map_of_mem hrest)
        simp only [get?, hne, if_false, ih hn.2 hrest]

namespace Watchlist

variable {w w' : Watchlist} {key : TxHash → Address × Nat}

/-- The watchlist holds records under their own hashes, each with the account and nonce that its
hash stands for, and its index leads to every live one. -/
structure Complete (w : Watchlist) (key : TxHash → Address × Nat) : Prop where
  /-- A record stands under its own hash, which stands for its account and nonce. -/
  keyed : ∀ h r, w.lookup? h = some r → r.hash = h ∧ (r.account, r.nonce) = key h
  /-- Every entry of the index leads to a transaction with that account and nonce. -/
  indexed : w.Indexed
  /-- The entry for the nonce of a live transaction leads to it. -/
  reached : ∀ h r, w.lookup? h = some r → r.isLive = true →
    w.holders.get? (r.account, r.nonce) = some h

theorem complete_empty : Complete {} key where
  keyed := fun h r hr => by cases hr
  indexed := fun a n h hh => by cases hh
  reached := fun h r hr => by cases hr

namespace Complete

/-- A nonce that a live transaction uses has a live holder. -/
theorem liveHolder?_eq (h : w.Complete key) {k : TxHash} {r : Record} (hr : w.lookup? k = some r)
    (hlive : r.isLive = true) : w.liveHolder? r.account r.nonce = some k :=
  (w.liveHolder?_eq_some_iff _ _ _).mpr ⟨h.reached k r hr hlive, r, hr, hlive⟩

/-- A nonce has a live holder exactly if a live transaction uses it. -/
theorem liveHolder?_ne_none_iff (h : w.Complete key) (a : Address) (n : Nat) :
    w.liveHolder? a n ≠ none ↔
      ∃ k r, w.lookup? k = some r ∧ r.isLive = true ∧ r.account = a ∧ r.nonce = n := by
  constructor
  · intro hsome
    obtain ⟨k, hk⟩ := Option.ne_none_iff_exists'.mp hsome
    obtain ⟨r, hr⟩ := h.indexed.of_liveHolder? hk
    exact ⟨k, r, hr⟩
  · rintro ⟨k, r, hr, hlive, rfl, rfl⟩
    rw [h.liveHolder?_eq hr hlive]
    exact Option.some_ne_none k

theorem enter (h : w.Complete key) {r : Record} (hkey : (r.account, r.nonce) = key r.hash)
    (he : w.enter r = .ok w') : w'.Complete key := by
  obtain ⟨-, hfree⟩ := (w.admits_iff r).mpr ⟨w', he⟩
  obtain ⟨hnew, hlookup⟩ := lookup?_of_enter he
  refine ⟨?_, h.indexed.enter he, ?_⟩
  · intro k r' hr'
    rw [hlookup] at hr'
    split at hr'
    · rename_i hk
      cases hr'
      exact ⟨hk.symm, hk ▸ hkey⟩
    · exact h.keyed k r' hr'
  · intro k r' hr' hlive
    rw [holders_of_enter he, Table.get?_set]
    rw [hlookup] at hr'
    split at hr'
    · rename_i hk
      cases hr'
      rw [if_pos rfl, hk]
    · -- A live transaction with the same nonce would have kept the new one out.
      rw [if_neg]
      · exact h.reached k r' hr' hlive
      · intro hsame
        obtain ⟨haccount, hnonce⟩ := Prod.mk.inj hsame
        rw [← haccount, ← hnonce, h.liveHolder?_eq hr' hlive] at hfree
        cases hfree

theorem polled (h : w.Complete key) {k : TxHash} {now : Timestamp} {status : Status}
    {o : Observation} (hp : w.polled? k now status = some (w', o)) : w'.Complete key := by
  obtain ⟨r, hr, -, hholders, hrecord, -⟩ := polled?_eq_some hp
  have hsame : o.record.hash = r.hash ∧ o.record.account = r.account ∧
      o.record.nonce = r.nonce := by
    rw [hrecord]
    exact ⟨rfl, rfl, rfl⟩
  refine ⟨?_, h.indexed.polled hp, ?_⟩
  · intro j r' hr'
    rw [lookup?_of_polled hp] at hr'
    split at hr'
    · rename_i hj
      cases hr'
      rw [hsame.1, hsame.2.1, hsame.2.2, hj]
      exact h.keyed k r hr
    · exact h.keyed j r' hr'
  · intro j r' hr' hlive
    rw [hholders]
    rw [lookup?_of_polled hp] at hr'
    split at hr'
    · -- Only a live record is live afterwards.
      rename_i hj
      cases hr'
      have hwas : r.isLive = true := by
        by_contra hfinal
        rw [hrecord] at hlive
        simp_all [Record.isLive]
      rw [hsame.2.1, hsame.2.2, hj]
      exact h.reached k r hr hwas
    · exact h.reached j r' hr' hlive

/-- Only final records are forgotten, so the entries for live ones stay. -/
theorem purge (h : w.Complete key) (cutoff : Timestamp) : (w.purge cutoff).Complete key := by
  refine ⟨?_, h.indexed.purge cutoff, ?_⟩
  · intro k r hr
    rw [lookup?_purge, Option.filter_eq_some_iff] at hr
    exact h.keyed k r hr.1
  · intro k r hr hlive
    rw [lookup?_purge, Option.filter_eq_some_iff] at hr
    have hget : w.records.get? k = some r := hr.1
    have hheld : (w.purge cutoff).holders.get? (r.account, r.nonce) = _ :=
      w.holders.get?_filter _ (r.account, r.nonce)
    rw [hheld, h.reached k r hr.1 hlive, Option.filter_some, if_pos]
    have hkept : isExpired cutoff r = false := by simpa using hr.2
    simp [hget, hkept]

/-- A record may be restored if its hash stands for its account and nonce, and, if it is live, no
other live transaction uses its nonce. -/
theorem restore (h : w.Complete key) {r : Record} (hkey : (r.account, r.nonce) = key r.hash)
    (halone : r.isLive = true → ∀ k r', w.lookup? k = some r' → r'.isLive = true →
      r'.account = r.account → r'.nonce = r.nonce → k = r.hash) : (w.restore r).Complete key := by
  refine ⟨?_, ?_, ?_⟩
  · intro k r' hr'
    rw [lookup?_restore] at hr'
    split at hr'
    · rename_i hk
      cases hr'
      exact ⟨hk.symm, hk ▸ hkey⟩
    · exact h.keyed k r' hr'
  · apply h.indexed.restore
    intro r' hr'
    have hsame := (h.keyed r.hash r' hr').2.trans hkey.symm
    exact Prod.mk.inj hsame
  · intro k r' hr' hlive
    rw [holders_restore]
    rw [lookup?_restore] at hr'
    split at hr'
    · rename_i hk
      cases hr'
      rw [if_pos ⟨.inl hlive, rfl⟩, hk]
    · -- The entry is left to another live transaction, which has to be this one.
      rename_i hk
      rw [if_neg]
      · exact h.reached k r' hr' hlive
      · rintro ⟨hfree | hnone, hsame⟩
        · obtain ⟨haccount, hnonce⟩ := Prod.mk.inj hsame
          exact hk (halone hfree k r' hr' hlive haccount hnonce)
        · obtain ⟨haccount, hnonce⟩ := Prod.mk.inj hsame
          rw [← haccount, ← hnonce, h.liveHolder?_eq hr' hlive] at hnone
          cases hnone

end Complete

/-- The index has no more entries than there are records: each leads to a record of its own. -/
theorem Indexed.size_le (h : w.Indexed) : w.holders.size ≤ w.records.size := by
  have hmem : ∀ e ∈ w.holders.entries, w.holders.get? e.1 = some e.2 := fun e he =>
    Entries.get?_of_mem w.holders.nodup he
  have hnodup : (w.holders.entries.map Prod.snd).Nodup := by
    refine List.Nodup.map_on ?_ (List.Nodup.of_map _ w.holders.nodup)
    rintro ⟨⟨a, n⟩, k⟩ he ⟨⟨a', n'⟩, k'⟩ he' hk
    obtain ⟨r, hr, rfl, rfl⟩ := h a n k (hmem _ he)
    obtain ⟨r', hr', rfl, rfl⟩ := h a' n' k' (hmem _ he')
    cases hk
    cases hr.symm.trans hr'
    rfl
  have hsub : w.holders.entries.map Prod.snd ⊆ w.records.entries.map Prod.fst := by
    intro k hk
    obtain ⟨⟨⟨a, n⟩, j⟩, he, rfl⟩ := List.mem_map.mp hk
    obtain ⟨r, hr, -⟩ := h a n j (hmem _ he)
    exact Entries.mem_keys_of_get? hr
  have hle := (hnodup.subperm hsub).length_le
  simpa [Table.size] using hle

end Watchlist

namespace Gateway

/-- What can be done to what a gateway watches. -/
inductive Act
  /-- Begin to watch a transaction. -/
  | watch (r : Record)
  /-- Take in a stored record. -/
  | restore (r : Record)
  /-- Take in a status that a poll has observed. -/
  | poll (now : Timestamp) (h : TxHash) (status : Status)
  /-- Forget final records that were last touched long ago. -/
  | evict (now : Timestamp) (olderThan : Duration)

/-- The gateway afterwards. A round of forgetting that breaks off leaves everything as it is. -/
def act (g : Gateway) : Act → Gateway
  | .watch r => (g.watch r).1
  | .restore r => g.restore r
  | .poll now h status => (Poll.apply now g h status).1
  | .evict now olderThan => match g.evict now olderThan with
    | .ok (g, _) => g
    | .error _ => g

/-- Whether a record is presented with the account and nonce that its hash stands for, and is not
restored live beside another live transaction of its nonce. -/
def Act.IsFair (key : TxHash → Address × Nat) (g : Gateway) : Act → Prop
  | .watch r => (r.account, r.nonce) = key r.hash
  | .restore r => (r.account, r.nonce) = key r.hash ∧
      (r.isLive = true → ∀ k r', g.watchlist.lookup? k = some r' → r'.isLive = true →
        r'.account = r.account → r'.nonce = r.nonce → k = r.hash)
  | .poll .. | .evict .. => True

/-- What a fresh gateway can come to by fair acts, each hash standing for one account and nonce. -/
inductive Reached (key : TxHash → Address × Nat) : Gateway → Prop
  /-- Nothing has been done. -/
  | fresh : Reached key {}
  /-- One more thing has been done. -/
  | act {g : Gateway} (reached : Reached key g) {x : Act} (fair : x.IsFair key g) :
      Reached key (g.act x)

variable {g : Gateway} {key : TxHash → Address × Nat}

/-- Every fair act keeps the index in order. -/
theorem complete_act (h : g.watchlist.Complete key) {x : Act} (hx : x.IsFair key g) :
    (g.act x).watchlist.Complete key := by
  cases x with
  | watch r =>
      simp only [act]
      rcases g.watch_cases r with ⟨g', hwatch, hentered, -⟩ | ⟨g', conflict, hwatch, -, hsteady⟩
      · rw [hwatch]
        exact h.enter hx hentered
      · rw [hwatch, hsteady.watchlist_eq]
        exact h
  | restore r => exact h.restore hx.1 hx.2
  | poll now k status =>
      simp only [act, Poll.apply]
      split
      · exact h
      · rename_i w o hpolled
        have hw := h.polled hpolled
        split <;> exact hw
  | evict now olderThan =>
      simp only [act, evict]
      split
      · rename_i hevict
        split at hevict <;> cases hevict
        · exact h
        · exact h.purge _
      · exact h

theorem Reached.complete (h : Reached key g) : g.watchlist.Complete key := by
  induction h with
  | fresh => exact Watchlist.complete_empty
  | act reached fair ih => exact complete_act ih fair

/-- The index of a gateway is complete: it leads to every live transaction and to nothing else but
watched ones, and by it the gateway finds out every transaction that must not be entered. -/
structure WellIndexed (g : Gateway) : Prop where
  /-- The entry for the nonce of a live transaction leads to it. -/
  reached : ∀ k r, g.watchlist.lookup? k = some r → r.status = .pending →
    g.watchlist.holders.get? (r.account, r.nonce) = some k
  /-- At most one live transaction uses a nonce of an account. -/
  alone : ∀ k k' r r', g.watchlist.lookup? k = some r → g.watchlist.lookup? k' = some r' →
    r.status = .pending → r'.status = .pending → r.account = r'.account → r.nonce = r'.nonce →
    k = k' ∧ r = r'
  /-- Every entry leads to a watched transaction with that account and nonce. -/
  leads : ∀ a n k, g.watchlist.holders.get? (a, n) = some k →
    ∃ r, g.watchlist.lookup? k = some r ∧ r.account = a ∧ r.nonce = n
  /-- There are no more entries than records. -/
  size_le : g.watchlist.holders.size ≤ g.watchlist.records.size
  /-- A transaction is refused exactly if its hash is watched or a live one uses its nonce. -/
  refused_iff : ∀ r, (∃ message, (g.watch r).2 = .error (.violation message)) ↔
    (∃ r', g.watchlist.lookup? r.hash = some r') ∨
      ∃ k r', g.watchlist.lookup? k = some r' ∧ r'.status = .pending ∧ r'.account = r.account ∧
        r'.nonce = r.nonce
  /-- It is entered otherwise. -/
  entered_or_refused : ∀ r, (g.watch r).2 = .ok () ∨
    ∃ message, (g.watch r).2 = .error (.violation message)
  /-- A transaction that is refused leaves the records and the index as they are. -/
  unchanged : ∀ r e, (g.watch r).2 = .error e → (g.watch r).1.watchlist = g.watchlist

/-- By whatever fair acts a gateway has come to its state, its index is complete. -/
theorem Reached.wellIndexed (h : Reached key g) : g.WellIndexed := by
  have hcomplete := h.complete
  have hlive : ∀ r : Record, r.status = .pending ↔ r.isLive = true := fun r =>
    ⟨Record.isLive_of_pending, Record.status_of_isLive⟩
  have hrefused : ∀ r, ¬ g.watchlist.Admits r ↔ (∃ r', g.watchlist.lookup? r.hash = some r') ∨
      ∃ k r', g.watchlist.lookup? k = some r' ∧ r'.status = .pending ∧ r'.account = r.account ∧
        r'.nonce = r.nonce := by
    intro r
    rw [Watchlist.Admits, not_and_or, ← ne_eq, ← ne_eq, Option.ne_none_iff_exists',
      hcomplete.liveHolder?_ne_none_iff]
    simp only [hlive]
  refine ⟨?_, ?_, hcomplete.indexed, hcomplete.indexed.size_le, ?_, ?_, ?_⟩
  · intro k r hr hpending
    exact hcomplete.reached k r hr ((hlive r).mp hpending)
  · intro k k' r r' hr hr' hpending hpending' haccount hnonce
    have hk := hcomplete.reached k r hr ((hlive r).mp hpending)
    have hk' := hcomplete.reached k' r' hr' ((hlive r').mp hpending')
    rw [haccount, hnonce, hk'] at hk
    cases hk
    exact ⟨rfl, Option.some.inj (hr.symm.trans hr')⟩
  · intro r
    rw [← hrefused, Watchlist.admits_iff]
    rcases g.watch_cases r with ⟨g', hwatch, hentered, -⟩ | ⟨g', conflict, hwatch, hno, -⟩
    · simp [hwatch, hentered]
    · simp [hwatch, hno]
  · intro r
    rcases g.watch_cases r with ⟨g', hwatch, -⟩ | ⟨g', conflict, hwatch, -⟩
    · exact .inl (by rw [hwatch])
    · exact .inr ⟨conflict.message, by rw [hwatch]⟩
  · intro r e he
    rcases g.watch_cases r with ⟨g', hwatch, -⟩ | ⟨g', conflict, hwatch, -, hsteady⟩
    · rw [hwatch] at he
      cases he
    · rw [hwatch]
      exact hsteady.watchlist_eq

/-- A transaction of the zero account with nonce 5, under a hash with a number. -/
def numbered (h : Nat) (status : Status) : Record :=
  ⟨⟨h⟩, ⟨BitVec.ofNat 256 h⟩, ⟨0⟩, 5, ⟨0⟩, status, none⟩

/-- A transaction is dropped, its nonce is used again, and a stored final record of the same nonce
is restored. -/
def reused : Gateway :=
  (((({} : Gateway).act (.watch (numbered 1 .pending))).act (.poll ⟨1⟩ ⟨1⟩ .dropped)).act
    (.watch (numbered 2 .pending))).act (.restore (numbered 3 .dropped))

theorem reached_reused : Reached (fun _ => (⟨0⟩, 5)) reused := by
  apply Reached.act (x := .restore (numbered 3 .dropped))
  · apply Reached.act (x := .watch (numbered 2 .pending))
    · apply Reached.act (x := .poll ⟨1⟩ ⟨1⟩ .dropped)
      · exact Reached.act (x := .watch (numbered 1 .pending)) .fresh rfl
      · trivial
    · rfl
  · exact ⟨rfl, fun hlive => by cases hlive⟩

/-- The index leads to the transaction that uses the nonce again. -/
theorem reused_wellIndexed :
    Reached (fun _ => (⟨0⟩, 5)) reused ∧ reused.WellIndexed ∧
      reused.watchlist.holders.get? (⟨0⟩, 5) = some ⟨2⟩ ∧ reused.watchlist.records.size = 3 :=
  ⟨reached_reused, reached_reused.wellIndexed, by decide +kernel, by decide +kernel⟩

end Gateway

end TxGateway
