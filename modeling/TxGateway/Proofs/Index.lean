import TxGateway.Proofs.Watching

/-!
# The index of the watchlist

For each account and nonce the watchlist knows a hash. In an orderly run that hash is watched, and
its transaction has that account and nonce. So a live holder of a nonce has it in hand, and a
transaction can be entered unless its hash is known.
-/

namespace TxGateway

namespace Watchlist

variable {w w' : Watchlist}

/-- Every entry of the index leads to a transaction with that account and nonce. -/
def Indexed (w : Watchlist) : Prop :=
  ∀ a n h, w.holders.get? (a, n) = some h → ∃ r, w.lookup? h = some r ∧ r.account = a ∧ r.nonce = n

/-- A transaction can be entered if its hash is not watched and nobody uses its nonce. -/
def Admits (w : Watchlist) (r : Record) : Prop :=
  w.lookup? r.hash = none ∧ w.liveHolder? r.account r.nonce = none

theorem admits_iff (w : Watchlist) (r : Record) : w.Admits r ↔ ∃ w', w.enter r = .ok w' := by
  have hcontains : w.records.contains r.hash = (w.lookup? r.hash).isSome := rfl
  constructor
  · rintro ⟨hnew, hfree⟩
    refine ⟨⟨w.records.set r.hash r, w.holders.set (r.account, r.nonce) r.hash⟩, ?_⟩
    simp only [enter, hcontains, hnew, hfree, Option.isSome_none, Bool.false_eq_true, if_false]
  · rintro ⟨w', he⟩
    simp only [enter, hcontains] at he
    split at he
    · cases he
    · rename_i hnew
      split at he
      · cases he
      · rename_i hfree
        exact ⟨by simpa using hnew, hfree⟩

theorem holders_of_enter {r : Record} (he : w.enter r = .ok w') :
    w'.holders = w.holders.set (r.account, r.nonce) r.hash := by
  simp only [Watchlist.enter] at he
  split at he
  · cases he
  · split at he
    · cases he
    · cases he
      rfl

theorem Indexed.enter (h : w.Indexed) {r : Record} (he : w.enter r = .ok w') : w'.Indexed := by
  obtain ⟨hnew, hlookup⟩ := lookup?_of_enter he
  intro a n k hk
  rw [holders_of_enter he, Table.get?_set] at hk
  split at hk
  · rename_i hkey
    cases hk
    cases hkey
    exact ⟨r, by rw [hlookup, if_pos rfl], rfl, rfl⟩
  · obtain ⟨r', hr', haccount, hnonce⟩ := h a n k hk
    refine ⟨r', ?_, haccount, hnonce⟩
    rw [hlookup, if_neg fun heq => ?_]
    · exact hr'
    · rw [← heq, hr'] at hnew
      cases hnew

theorem Indexed.polled (h : w.Indexed) {k : TxHash} {now : Timestamp} {status : Status}
    {o : Observation} (hp : w.polled? k now status = some (w', o)) : w'.Indexed := by
  obtain ⟨r, hr, -, hholders, hrecord, -⟩ := polled?_eq_some hp
  intro a n j hj
  rw [hholders] at hj
  obtain ⟨r', hr', haccount, hnonce⟩ := h a n j hj
  rw [lookup?_of_polled hp]
  by_cases hjk : j = k
  · subst hjk
    obtain rfl : r' = r := Option.some.inj (hr'.symm.trans hr)
    rw [if_pos rfl]
    refine ⟨o.record, rfl, ?_, ?_⟩
    · rw [hrecord]
      exact haccount
    · rw [hrecord]
      exact hnonce
  · rw [if_neg hjk]
    exact ⟨r', hr', haccount, hnonce⟩

/-- Entries of the index that led to forgotten transactions are removed with them. -/
theorem Indexed.purge (h : w.Indexed) (cutoff : Timestamp) : (w.purge cutoff).Indexed := by
  intro a n k hk
  have hget : (w.purge cutoff).holders.get? (a, n) = _ := w.holders.get?_filter _ (a, n)
  rw [hget, Option.filter_eq_some_iff] at hk
  obtain ⟨hheld, hkept⟩ := hk
  obtain ⟨r, hr, rfl, rfl⟩ := h a n k hheld
  refine ⟨r, ?_, rfl, rfl⟩
  have hr' : w.records.get? k = some r := hr
  rw [lookup?_purge, hr, Option.filter_some, if_pos]
  simpa [hr'] using hkept

theorem Indexed.liveHolder?_eq_none (h : w.Indexed) {a : Address} {n : Nat}
    (hn : .nonce a n ∉ w.held) : w.liveHolder? a n = none := by
  simp only [liveHolder?]
  split
  · rfl
  · rename_i k hk
    obtain ⟨r, hr, rfl, rfl⟩ := h a n k hk
    have hr' : w.records.get? k = some r := hr
    have hfinal : r.isLive ≠ true := by
      intro hlive
      apply hn
      apply mem_held_of_lookup? hr
      rw [Record.held_of_pending (Record.status_of_isLive hlive)]
      exact Multiset.mem_cons_of_mem (Multiset.mem_singleton_self _)
    simp [hr', hfinal]

end Watchlist

theorem Move.indexed {g g' : Gateway} {t : Option (Address × Turn)} {mine mine' : Multiset Token}
    (hmove : Move g g' t mine mine') (h : g.watchlist.Indexed) : g'.watchlist.Indexed := by
  cases hmove with
  | keep steady turn le => exact steady.watchlist_eq ▸ h
  | grant steady turn got => exact steady.watchlist_eq ▸ h
  | back steady turn => exact steady.watchlist_eq ▸ h
  | issue watchlist_eq issued_eq turn => exact watchlist_eq ▸ h
  | enter entered issued_eq turn => exact h.enter entered
  | poll polled issued_eq turn le => exact h.polled polled
  | purge purged issued_eq turn => exact purged ▸ h.purge _

/-- In an orderly run the index is in order. -/
theorem System.indexed_after (p : Policy) (ms : List Moment) (hms : ∀ m ∈ ms, m.IsOrderly) :
    (after p ms).gateway.watchlist.Indexed := by
  have hall : (after p ms).Orderly ∧ (after p ms).gateway.watchlist.Indexed := by
    apply after_induction (P := fun s => s.Orderly ∧ s.gateway.watchlist.Indexed)
    · exact ⟨callsAre_zero, fun a n h hk => by cases hk⟩
    · intro m hm s ⟨ho, hi⟩
      exact ⟨orderly_pass ho p (hms m hm), (move_pass ho p (hms m hm)).indexed hi⟩
  exact hall.2

end TxGateway
