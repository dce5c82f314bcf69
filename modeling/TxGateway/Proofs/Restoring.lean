import TxGateway.Proofs.Index

/-!
# Taking stored records in

Records are taken in one after another, live and final ones in any order. A final one never hides a
live one of the same nonce, so afterwards exactly those records are watched, and a nonce has a live
holder exactly if one of them is live and uses it.
-/

namespace TxGateway.Watchlist

variable {w : Watchlist} {r : Record}

theorem lookup?_restore (w : Watchlist) (r : Record) (h : TxHash) :
    (w.restore r).lookup? h = if h = r.hash then some r else w.lookup? h :=
  w.records.get?_set r.hash r h

/-- A record that is taken in gets its nonce in the index, unless it is final and a live one has the
nonce. -/
theorem holders_restore (w : Watchlist) (r : Record) (a : Address) (n : Nat) :
    (w.restore r).holders.get? (a, n) =
      if (r.isLive = true ∨ w.liveHolder? r.account r.nonce = none) ∧
          (a, n) = (r.account, r.nonce) then some r.hash
      else w.holders.get? (a, n) := by
  have hhidden : ((w.liveHolder? r.account r.nonce).isSome && r.status.isFinal) = true ↔
      ¬ (r.isLive = true ∨ w.liveHolder? r.account r.nonce = none) := by
    simp [Record.isLive, Option.isSome_iff_ne_none, and_comm]
  by_cases hfree : r.isLive = true ∨ w.liveHolder? r.account r.nonce = none
  · simp only [Watchlist.restore, hhidden, hfree, not_true_eq_false, if_false, Table.get?_set,
      true_and]
  · simp only [Watchlist.restore, hhidden, hfree, not_false_eq_true, if_true, false_and, if_false]

/-- The index stays sound if the record is not presented with another account or nonce than the one
that is watched under its hash. -/
theorem Indexed.restore (h : w.Indexed)
    (hkey : ∀ r', w.lookup? r.hash = some r' → r'.account = r.account ∧ r'.nonce = r.nonce) :
    (w.restore r).Indexed := by
  intro a n k hk
  rw [holders_restore] at hk
  rw [lookup?_restore]
  split at hk
  · rename_i hset
    cases hk
    cases hset.2
    exact ⟨r, if_pos rfl, rfl, rfl⟩
  · obtain ⟨r', hr', haccount, hnonce⟩ := h a n k hk
    by_cases hhash : k = r.hash
    · subst hhash
      obtain ⟨ha, hn⟩ := hkey r' hr'
      exact ⟨r, if_pos rfl, ha.symm.trans haccount, hn.symm.trans hnonce⟩
    · exact ⟨r', by rw [if_neg hhash, hr'], haccount, hnonce⟩

theorem liveHolder?_eq_some_iff (w : Watchlist) (a : Address) (n : Nat) (k : TxHash) :
    w.liveHolder? a n = some k ↔
      w.holders.get? (a, n) = some k ∧ ∃ r, w.lookup? k = some r ∧ r.isLive = true := by
  simp only [liveHolder?, lookup?]
  split
  · rename_i hnone
    simp [hnone]
  · rename_i j hj
    rw [hj, Option.some.injEq]
    split
    · rename_i r hr
      by_cases hlive : r.isLive = true
      · rw [if_pos hlive, Option.some.injEq]
        constructor
        · rintro rfl
          exact ⟨rfl, r, hr, hlive⟩
        · rintro ⟨rfl, -⟩
          rfl
      · rw [if_neg hlive]
        constructor
        · intro hno
          cases hno
        · rintro ⟨rfl, r', hr', hlive'⟩
          obtain rfl := Option.some.inj (hr.symm.trans hr')
          exact absurd hlive' hlive
    · rename_i hnone
      constructor
      · intro hno
        cases hno
      · rintro ⟨rfl, r, hr, -⟩
        rw [hnone] at hr
        cases hr

/-- A live holder of a nonce is a live watched transaction with that account and nonce. -/
theorem Indexed.of_liveHolder? (h : w.Indexed) {a : Address} {n : Nat} {k : TxHash}
    (hk : w.liveHolder? a n = some k) :
    ∃ r, w.lookup? k = some r ∧ r.isLive = true ∧ r.account = a ∧ r.nonce = n := by
  obtain ⟨hholder, r, hr, hlive⟩ := (w.liveHolder?_eq_some_iff a n k).mp hk
  obtain ⟨r', hr', haccount, hnonce⟩ := h a n k hholder
  obtain rfl := Option.some.inj (hr.symm.trans hr')
  exact ⟨r, hr, hlive, haccount, hnonce⟩

/-- Taking in a record that is not watched yet, or again, changes the live holder of a nonce only if
the record is live and uses it. -/
theorem Indexed.liveHolder?_restore (h : w.Indexed)
    (hsame : ∀ r', w.lookup? r.hash = some r' → r' = r) (a : Address) (n : Nat) :
    (w.restore r).liveHolder? a n =
      if r.isLive = true ∧ (a, n) = (r.account, r.nonce) then some r.hash
      else w.liveHolder? a n := by
  ext k
  rw [liveHolder?_eq_some_iff, holders_restore, lookup?_restore]
  by_cases htaken : r.isLive = true ∧ (a, n) = (r.account, r.nonce)
  · obtain ⟨hlive, hkey⟩ := htaken
    simp only [hlive, hkey, true_or, and_self, if_true, Option.some.injEq]
    constructor
    · exact And.left
    · rintro rfl
      exact ⟨rfl, r, if_pos rfl, hlive⟩
  · rw [if_neg htaken]
    by_cases hset : (r.isLive = true ∨ w.liveHolder? r.account r.nonce = none) ∧
        (a, n) = (r.account, r.nonce)
    · -- A final record whose nonce nobody holds: nobody holds it afterwards.
      obtain ⟨hfree, hkey⟩ := hset
      have hfinal : ¬ r.isLive = true := fun hlive => htaken ⟨hlive, hkey⟩
      have hnone := hfree.resolve_left hfinal
      cases hkey
      rw [if_pos ⟨.inr hnone, rfl⟩, hnone, Option.some.injEq]
      constructor
      · rintro ⟨rfl, r', hr', hlive⟩
        rw [if_pos rfl, Option.some.injEq] at hr'
        exact absurd (hr' ▸ hlive) hfinal
      · intro hno
        cases hno
    · -- The index stays. An entry that leads to the record is for its nonce, so it is final.
      rw [if_neg hset, liveHolder?_eq_some_iff]
      apply and_congr_right
      intro hk
      by_cases hhash : k = r.hash
      · subst hhash
        obtain ⟨r', hr', rfl, rfl⟩ := h a n r.hash hk
        obtain rfl := hsame r' hr'
        rw [if_pos rfl, hr']
      · rw [if_neg hhash]

/-- Exactly these records are watched, and each live one of them has its nonce held. -/
structure Holds (w : Watchlist) (rs : List Record) : Prop where
  /-- What is watched under a hash is the record with that hash. -/
  lookup?_iff : ∀ h r, w.lookup? h = some r ↔ r ∈ rs ∧ r.hash = h
  /-- The index is sound. -/
  indexed : w.Indexed
  /-- The nonce of a live record is held by a live one. -/
  held : ∀ r ∈ rs, r.isLive = true → (w.liveHolder? r.account r.nonce).isSome = true

theorem holds_nil : Holds {} [] where
  lookup?_iff := by simp [lookup?]
  indexed := by simp [Indexed]
  held := by simp

theorem Holds.restore {rs : List Record} (h : w.Holds rs)
    (hsame : ∀ r' ∈ rs, r'.hash = r.hash → r' = r) : (w.restore r).Holds (rs ++ [r]) := by
  have hlookup : ∀ r', w.lookup? r.hash = some r' → r' = r := by
    intro r' hr'
    obtain ⟨hmem, hhash⟩ := (h.lookup?_iff _ _).mp hr'
    exact hsame r' hmem hhash
  refine ⟨?_, ?_, ?_⟩
  · intro k r'
    rw [lookup?_restore, List.mem_append, List.mem_singleton]
    by_cases hk : k = r.hash
    · rw [if_pos hk, Option.some.injEq, hk]
      constructor
      · rintro rfl
        exact ⟨.inr rfl, rfl⟩
      · rintro ⟨hmem | rfl, hhash⟩
        · exact (hsame r' hmem hhash).symm
        · rfl
    · rw [if_neg hk, h.lookup?_iff]
      constructor
      · rintro ⟨hmem, hhash⟩
        exact ⟨.inl hmem, hhash⟩
      · rintro ⟨hmem | rfl, hhash⟩
        · exact ⟨hmem, hhash⟩
        · exact absurd hhash.symm hk
  · apply h.indexed.restore
    intro r' hr'
    rw [hlookup r' hr']
    exact ⟨rfl, rfl⟩
  · intro r' hr' hlive
    rw [h.indexed.liveHolder?_restore hlookup]
    split
    · rfl
    · rename_i hother
      rcases List.mem_append.mp hr' with hmem | hlast
      · exact h.held r' hmem hlive
      · obtain rfl := List.mem_singleton.mp hlast
        exact absurd ⟨hlive, rfl⟩ hother

/-- A nonce has a live holder exactly if a live record uses it. -/
theorem Holds.liveHolder?_isSome_iff {rs : List Record} (h : w.Holds rs) (a : Address) (n : Nat) :
    (w.liveHolder? a n).isSome = true ↔
      ∃ r ∈ rs, r.isLive = true ∧ r.account = a ∧ r.nonce = n := by
  constructor
  · intro hsome
    obtain ⟨k, hk⟩ := Option.isSome_iff_exists.mp hsome
    obtain ⟨r, hr, hlive, haccount, hnonce⟩ := h.indexed.of_liveHolder? hk
    exact ⟨r, ((h.lookup?_iff k r).mp hr).1, hlive, haccount, hnonce⟩
  · rintro ⟨r, hr, hlive, rfl, rfl⟩
    exact h.held r hr hlive

/-- Only which records there are matters, not their order. -/
theorem Holds.congr {rs rs' : List Record} (h : w.Holds rs) (hrs : ∀ r, r ∈ rs ↔ r ∈ rs') :
    w.Holds rs' where
  lookup?_iff := fun k r => by rw [h.lookup?_iff, hrs]
  indexed := h.indexed
  held := fun r hr => h.held r ((hrs r).mpr hr)

end TxGateway.Watchlist
