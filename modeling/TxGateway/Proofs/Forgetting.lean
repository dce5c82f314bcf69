import Mathlib.Data.Finset.Card
import TxGateway.Proofs.HolderIndex

/-!
# What forgetting removes

A round of forgetting removes the final records that were last touched before a cutoff, and no
others. An entry of the index goes with the record it leads to, so one that a newer transaction of
the nonce has taken over stays. Which nonces are in use does not change, so a transaction can be
entered afterwards exactly if it could before, or if its hash is among the forgotten ones and its
nonce is free.
-/

namespace TxGateway

namespace Timestamp

variable {now : Timestamp} {span : Nat}

/-- Between two dates there is never too long a time. -/
theorem goBack_eq_at (hnow : now.hasDate = true)
    (hthen : (⟨now.nanos - span⟩ : Timestamp).hasDate = true) :
    now.goBack span = .at ⟨now.nanos - span⟩ := by
  have hwidth : latest.nanos - earliest.nanos ≤ greatestSpan := by decide
  have hshort : ¬ greatestSpan < (span : Int).natAbs := by
    simp only [hasDate, Bool.and_eq_true, decide_eq_true_eq] at hnow hthen
    omega
  rw [goBack, if_neg hshort, if_pos hthen]

theorem goBack_of_tooLong (h : greatestSpan < span) (now : Timestamp) :
    now.goBack span = .tooLong := by
  rw [goBack, if_pos (by omega)]

/-- From a date one gets out of the calendar by a time that is not too long, over its first
moment. -/
theorem goBack_eq_outsideCalendar_iff (hnow : now.hasDate = true) :
    now.goBack span = .outsideCalendar ↔
      span ≤ greatestSpan ∧ now.nanos - span < earliest.nanos := by
  by_cases hlong : greatestSpan < span
  · rw [goBack_of_tooLong hlong]
    constructor
    · intro hno
      cases hno
    · rintro ⟨hshort, -⟩
      omega
  · by_cases hthen : (⟨now.nanos - span⟩ : Timestamp).hasDate = true
    · rw [goBack_eq_at hnow hthen]
      simp only [hasDate, Bool.and_eq_true, decide_eq_true_eq] at hthen
      constructor
      · intro hno
        cases hno
      · rintro ⟨-, hbefore⟩
        omega
    · rw [goBack, if_neg (by omega), if_neg hthen]
      simp only [hasDate, Bool.and_eq_true, decide_eq_true_eq] at hnow hthen
      exact iff_of_true rfl (by omega)

end Timestamp

namespace Watchlist

variable {w u : Watchlist} {cutoff : Timestamp}

/-- The hashes of the records that expire at a point in time. -/
def expired (w : Watchlist) (cutoff : Timestamp) : Finset TxHash :=
  (w.records.filter fun _ r => isExpired cutoff r).keys.toFinset

theorem isExpired_eq_true_iff {r : Record} : isExpired cutoff r = true ↔
    r.status ≠ .pending ∧ r.touchedAt.nanos < cutoff.nanos := by
  have hfinal : r.status.isFinal = true ↔ r.status ≠ .pending := by
    cases r.status <;> simp [Status.isFinal]
  rw [isExpired, Bool.and_eq_true, decide_eq_true_eq, hfinal]

theorem mem_expired {h : TxHash} :
    h ∈ w.expired cutoff ↔ ∃ r, w.lookup? h = some r ∧ isExpired cutoff r = true := by
  have hget := w.records.get?_filter (fun _ r => isExpired cutoff r) h
  rw [expired, List.mem_toFinset, Table.keys]
  constructor
  · intro hmem
    obtain ⟨⟨k, r⟩, he, rfl⟩ := List.mem_map.mp hmem
    obtain ⟨hin, hexpired⟩ := List.mem_filter.mp he
    exact ⟨r, Entries.get?_of_mem w.records.nodup hin, hexpired⟩
  · rintro ⟨r, hr, hexpired⟩
    have hr' : w.records.get? h = some r := hr
    rw [hr', Option.filter_some, if_pos hexpired] at hget
    exact Entries.mem_keys_of_get? hget

theorem card_expired (w : Watchlist) (cutoff : Timestamp) :
    (w.expired cutoff).card = w.expiring cutoff := by
  rw [expired, Table.keys, List.toFinset_card_of_nodup (Table.nodup _), expiring, Table.values,
    List.filter_map, List.length_map, List.length_map]
  rfl

theorem lookup?_purge_eq_ite (w : Watchlist) (cutoff : Timestamp) (h : TxHash) :
    (w.purge cutoff).lookup? h = if h ∈ w.expired cutoff then none else w.lookup? h := by
  rw [lookup?_purge]
  cases hr : w.lookup? h with
  | none => simp
  | some r =>
      have hmem : h ∈ w.expired cutoff ↔ isExpired cutoff r = true := by simp [mem_expired, hr]
      by_cases hexpired : isExpired cutoff r = true
      · rw [if_pos (hmem.mpr hexpired), Option.filter_some, hexpired]
        rfl
      · rw [if_neg (mt hmem.mp hexpired), Option.filter_some, if_pos]
        simpa using hexpired

/-- An entry of the index stays exactly if it does not lead to a forgotten record. -/
theorem Indexed.holders_purge (hw : w.Indexed) {a : Address} {n : Nat} {h : TxHash} :
    (w.purge cutoff).holders.get? (a, n) = some h ↔
      w.holders.get? (a, n) = some h ∧ h ∉ w.expired cutoff := by
  have hget : (w.purge cutoff).holders.get? (a, n) = _ := w.holders.get?_filter _ (a, n)
  rw [hget, Option.filter_eq_some_iff]
  apply and_congr_right
  intro hheld
  obtain ⟨r, hr, rfl, rfl⟩ := hw a n h hheld
  have hr' : w.records.get? h = some r := hr
  simp [mem_expired, hr, hr']

/-- Forgetting leaves the live holder of every nonce as it is. -/
theorem Indexed.liveHolder?_purge (hw : w.Indexed) (a : Address) (n : Nat) :
    (w.purge cutoff).liveHolder? a n = w.liveHolder? a n := by
  ext h
  simp only [liveHolder?_eq_some_iff, hw.holders_purge, lookup?_purge_eq_ite]
  constructor
  · rintro ⟨⟨hheld, hkept⟩, r, hr, hlive⟩
    rw [if_neg hkept] at hr
    exact ⟨hheld, r, hr, hlive⟩
  · rintro ⟨hheld, r, hr, hlive⟩
    -- A live record does not expire.
    have hkept : h ∉ w.expired cutoff := by
      rw [mem_expired]
      rintro ⟨r', hr', hexpired⟩
      obtain rfl := Option.some.inj (hr.symm.trans hr')
      exact (isExpired_eq_true_iff.mp hexpired).1 (Record.status_of_isLive hlive)
    exact ⟨⟨hheld, hkept⟩, r, by rw [if_neg hkept, hr], hlive⟩

/-- Nothing is removed if nothing expires. -/
theorem purge_eq_self (h : w.expired cutoff = ∅) : w.purge cutoff = w := by
  have hkept : ∀ k r, w.lookup? k = some r → isExpired cutoff r = false := by
    intro k r hr
    by_contra hexpired
    have hmem : k ∈ w.expired cutoff := mem_expired.mpr ⟨r, hr, by simpa using hexpired⟩
    rw [h] at hmem
    exact Finset.notMem_empty k hmem
  have hrecords : ∀ e ∈ w.records.entries, (!isExpired cutoff e.2) = true := by
    intro e he
    rw [hkept e.1 e.2 (Entries.get?_of_mem w.records.nodup he)]
    rfl
  have hholders : ∀ k, (w.records.get? k).any (isExpired cutoff) = false := by
    intro k
    cases hr : w.records.get? k with
    | none => rfl
    | some r => exact hkept k r hr
  obtain ⟨records, holders⟩ := w
  simp only [purge, Table.filter, List.filter_eq_self.mpr hrecords, hholders, Bool.false_and,
    Bool.not_false, List.filter_true]

/-- What has been purged has nothing more to forget. -/
theorem expired_purge (w : Watchlist) {earlier : Timestamp} (h : earlier.nanos ≤ cutoff.nanos) :
    (w.purge cutoff).expired earlier = ∅ := by
  rw [Finset.eq_empty_iff_forall_notMem]
  intro k hk
  obtain ⟨r, hr, hexpired⟩ := mem_expired.mp hk
  rw [lookup?_purge, Option.filter_eq_some_iff, Bool.not_eq_true', ← Bool.not_eq_true,
    isExpired_eq_true_iff] at hr
  obtain ⟨hfinal, hbefore⟩ := isExpired_eq_true_iff.mp hexpired
  exact hr.2 ⟨hfinal, hbefore.trans_le h⟩

/-- An earlier cutoff forgets less. -/
theorem expired_subset (w : Watchlist) {earlier : Timestamp} (h : earlier.nanos ≤ cutoff.nanos) :
    w.expired earlier ⊆ w.expired cutoff := by
  intro k hk
  obtain ⟨r, hr, hexpired⟩ := mem_expired.mp hk
  obtain ⟨hfinal, hbefore⟩ := isExpired_eq_true_iff.mp hexpired
  exact mem_expired.mpr ⟨r, hr, isExpired_eq_true_iff.mpr ⟨hfinal, hbefore.trans_le h⟩⟩

/-- Two watchlists that admit the same transactions, apart from those with some hashes. -/
structure Alike (gone : Finset TxHash) (w u : Watchlist) : Prop where
  /-- The index of the one is sound. -/
  left_indexed : w.Indexed
  /-- The index of the other is sound. -/
  right_indexed : u.Indexed
  /-- The same is known about every other hash. -/
  lookup?_eq : ∀ h, h ∉ gone → u.lookup? h = w.lookup? h
  /-- The same nonces are in use, by the same transactions. -/
  liveHolder?_eq : ∀ a n, u.liveHolder? a n = w.liveHolder? a n

theorem Indexed.alike_purge (hw : w.Indexed) (cutoff : Timestamp) :
    Alike (w.expired cutoff) w (w.purge cutoff) where
  left_indexed := hw
  right_indexed := hw.purge cutoff
  lookup?_eq := fun h hkept => by rw [lookup?_purge_eq_ite, if_neg hkept]
  liveHolder?_eq := hw.liveHolder?_purge

/-- A transaction that is entered holds its nonce if it is live, and nobody does otherwise. -/
theorem Indexed.liveHolder?_enter (hw : w.Indexed) {r : Record} {w' : Watchlist}
    (he : w.enter r = .ok w') (a : Address) (n : Nat) :
    w'.liveHolder? a n =
      if (a, n) = (r.account, r.nonce) then if r.isLive then some r.hash else none
      else w.liveHolder? a n := by
  obtain ⟨hnew, hlookup⟩ := lookup?_of_enter he
  by_cases hkey : (a, n) = (r.account, r.nonce)
  · have hget : w'.holders.get? (a, n) = some r.hash := by
      rw [holders_of_enter he, Table.get?_set, if_pos hkey]
    have hr : w'.records.get? r.hash = some r := (hlookup r.hash).trans (if_pos rfl)
    rw [if_pos hkey]
    simp only [liveHolder?, hget, hr]
  · rw [if_neg hkey]
    ext h
    rw [liveHolder?_eq_some_iff, liveHolder?_eq_some_iff, holders_of_enter he, Table.get?_set,
      if_neg hkey]
    apply and_congr_right
    intro hheld
    -- The entry leads to a watched transaction, so to another than the new one.
    obtain ⟨r', hr', -⟩ := hw a n h hheld
    rw [hlookup, if_neg]
    rintro rfl
    rw [hnew] at hr'
    cases hr'

/-- Why a transaction cannot be entered, if it cannot. -/
def conflict? (w : Watchlist) (r : Record) : Option Conflict :=
  match w.lookup? r.hash with
  | some _ => some (.known r.hash)
  | none => (w.liveHolder? r.account r.nonce).map (.inUse r.account r.nonce)

theorem conflict?_eq_none_iff (w : Watchlist) (r : Record) :
    w.conflict? r = none ↔ w.Admits r := by
  simp only [conflict?, Admits]
  cases w.lookup? r.hash with
  | some r' => simp
  | none => simp

theorem enter_of_conflict {r : Record} {c : Conflict} (h : w.conflict? r = some c) :
    w.enter r = .error c := by
  have hcontains : w.records.contains r.hash = (w.lookup? r.hash).isSome := rfl
  simp only [conflict?] at h
  simp only [enter, hcontains]
  cases hr : w.lookup? r.hash with
  | some r' =>
      rw [hr] at h
      cases h
      rfl
  | none =>
      rw [hr] at h
      obtain ⟨holder, hholder, rfl⟩ := Option.map_eq_some_iff.mp h
      rw [hholder]
      rfl

namespace Alike

variable {gone : Finset TxHash} {r : Record}

theorem conflict?_eq (h : Alike gone w u) (hr : r.hash ∉ gone) : u.conflict? r = w.conflict? r := by
  simp only [conflict?, h.lookup?_eq r.hash hr, h.liveHolder?_eq]

/-- They stay alike when a transaction is entered into both. -/
theorem enter (h : Alike gone w u) {w' u' : Watchlist} (hw : w.enter r = .ok w')
    (hu : u.enter r = .ok u') : Alike gone w' u' where
  left_indexed := h.left_indexed.enter hw
  right_indexed := h.right_indexed.enter hu
  lookup?_eq := by
    intro k hk
    rw [(lookup?_of_enter hu).2, (lookup?_of_enter hw).2, h.lookup?_eq k hk]
  liveHolder?_eq := by
    intro a n
    rw [h.right_indexed.liveHolder?_enter hu, h.left_indexed.liveHolder?_enter hw,
      h.liveHolder?_eq]

end Alike

end Watchlist

namespace Gateway

variable {g t : Gateway} {gone : Finset TxHash} {r : Record}

theorem watch_of_conflict {c : Watchlist.Conflict} (h : g.watchlist.conflict? r = some c) :
    g.watch r = (g.measure (·.violationFound), .error (.violation c.message)) := by
  rw [watch, Watchlist.enter_of_conflict h]

theorem watch_of_no_conflict (h : g.watchlist.conflict? r = none) :
    ∃ w, g.watchlist.enter r = .ok w ∧ g.watch r = ({ g with watchlist := w }, .ok ()) := by
  obtain ⟨w, hw⟩ := (g.watchlist.admits_iff r).mp ((g.watchlist.conflict?_eq_none_iff r).mp h)
  exact ⟨w, hw, by rw [watch, hw]⟩

theorem watch_eq_ok_iff (g : Gateway) (r : Record) :
    (g.watch r).2 = .ok () ↔ g.watchlist.Admits r := by
  rw [← Watchlist.conflict?_eq_none_iff]
  cases h : g.watchlist.conflict? r with
  | some c => simp [watch_of_conflict h]
  | none =>
      obtain ⟨w, -, hwatch⟩ := watch_of_no_conflict h
      simp [hwatch]

/-- Gateways with alike watchlists answer alike, and their watchlists stay alike. -/
theorem watch_alike (h : Watchlist.Alike gone g.watchlist t.watchlist) (hr : r.hash ∉ gone) :
    (t.watch r).2 = (g.watch r).2 ∧
      Watchlist.Alike gone (g.watch r).1.watchlist (t.watch r).1.watchlist := by
  have hsame := h.conflict?_eq hr
  cases hc : g.watchlist.conflict? r with
  | some c =>
      rw [watch_of_conflict hc, watch_of_conflict (hsame.trans hc)]
      exact ⟨rfl, h⟩
  | none =>
      obtain ⟨w, hw, hwatch⟩ := watch_of_no_conflict hc
      obtain ⟨u, hu, hwatch'⟩ := watch_of_no_conflict (hsame.trans hc)
      rw [hwatch, hwatch']
      exact ⟨rfl, h.enter hw hu⟩

/-- The answers to transactions that are presented one after another. -/
def answers (g : Gateway) : List Record → List (Except Failure Unit)
  | [] => []
  | r :: rs => (g.watch r).2 :: answers (g.watch r).1 rs

theorem answers_alike (h : Watchlist.Alike gone g.watchlist t.watchlist) (rs : List Record)
    (hrs : ∀ r ∈ rs, r.hash ∉ gone) : t.answers rs = g.answers rs := by
  induction rs generalizing g t with
  | nil => rfl
  | cons r rs ih =>
      obtain ⟨hfirst, hrest⟩ := watch_alike h (hrs r List.mem_cons_self)
      rw [answers, answers, hfirst, ih hrest fun r' hr' => hrs r' (List.mem_cons_of_mem r hr')]

/-- A gateway that has forgotten the records of some hashes, by a cutoff, and nothing else. -/
structure Forgets (g t : Gateway) (cutoff : Timestamp) (gone : Finset TxHash) : Prop where
  /-- Forgotten are the final records that were last polled, or sent if never polled, before the
  cutoff. -/
  gone_iff : ∀ h, h ∈ gone ↔ ∃ r, g.watchlist.lookup? h = some r ∧ r.status ≠ .pending ∧
    (r.lastPolledAt.getD r.submittedAt).nanos < cutoff.nanos
  /-- Every other record stays as it is. -/
  lookup?_eq : ∀ h, t.watchlist.lookup? h = if h ∈ gone then none else g.watchlist.lookup? h
  /-- A record whose outcome is open stays, however old it is. -/
  pending_stays : ∀ h r, g.watchlist.lookup? h = some r → r.status = .pending →
    t.watchlist.lookup? h = some r
  /-- The index loses the entries that led to forgotten records. -/
  holders_iff : ∀ a n h, t.watchlist.holders.get? (a, n) = some h ↔
    g.watchlist.holders.get? (a, n) = some h ∧ h ∉ gone
  /-- The index stays sound. -/
  indexed : t.watchlist.Indexed
  /-- Nothing else of the gateway changes. -/
  rest : t = { g with watchlist := t.watchlist }
  /-- A transaction can be entered if it could before, or if its record is forgotten and no live
  transaction uses its nonce. -/
  watch_iff : ∀ r, (t.watch r).2 = .ok () ↔ (g.watch r).2 = .ok () ∨
    r.hash ∈ gone ∧ g.watchlist.liveHolder? r.account r.nonce = none
  /-- Transactions with other hashes, presented one after another, are answered as before. -/
  answers_eq : ∀ rs : List Record, (∀ r ∈ rs, r.hash ∉ gone) → t.answers rs = g.answers rs

theorem forgets_purge (hindex : g.watchlist.Indexed) (cutoff : Timestamp) :
    g.Forgets { g with watchlist := g.watchlist.purge cutoff } cutoff
      (g.watchlist.expired cutoff) := by
  have hgone : ∀ h, h ∈ g.watchlist.expired cutoff ↔
      ∃ r, g.watchlist.lookup? h = some r ∧ r.status ≠ .pending ∧
        (r.lastPolledAt.getD r.submittedAt).nanos < cutoff.nanos := by
    intro h
    simp only [Watchlist.mem_expired, Watchlist.isExpired_eq_true_iff, Record.touchedAt]
  refine ⟨hgone, g.watchlist.lookup?_purge_eq_ite cutoff, ?_, fun _ _ _ => hindex.holders_purge,
    hindex.purge cutoff, rfl, ?_, answers_alike (hindex.alike_purge cutoff)⟩
  · intro h r hr hpending
    rw [Watchlist.lookup?_purge_eq_ite, if_neg, hr]
    rw [hgone]
    rintro ⟨r', hr', hfinal, -⟩
    obtain rfl := Option.some.inj (hr.symm.trans hr')
    exact hfinal hpending
  · intro r
    simp only [watch_eq_ok_iff, Watchlist.Admits, Watchlist.lookup?_purge_eq_ite,
      hindex.liveHolder?_purge]
    by_cases hr : r.hash ∈ g.watchlist.expired cutoff
    · -- It was known before, so it was refused.
      obtain ⟨r', hr', -⟩ := (hgone r.hash).mp hr
      simp [hr, hr']
    · simp [hr]

theorem evict_of_hasDate {now : Timestamp} {olderThan : Duration} (hnow : now.hasDate = true)
    (hthen : (⟨now.nanos - olderThan.nanos⟩ : Timestamp).hasDate = true) :
    g.evict now olderThan =
      .ok ({ g with watchlist := g.watchlist.purge ⟨now.nanos - olderThan.nanos⟩ },
        (g.watchlist.expired ⟨now.nanos - olderThan.nanos⟩).card) := by
  simp only [evict, Timestamp.goBack_eq_at hnow hthen, Watchlist.card_expired]

/-- What any length of time removes: nothing, or what expires. -/
theorem exists_gone_of_evict {now : Timestamp} {olderThan : Duration} {n : Nat}
    (h : g.evict now olderThan = .ok (t, n)) :
    ∃ gone ⊆ g.watchlist.expired ⟨now.nanos - olderThan.nanos⟩, n = gone.card ∧
      ∀ k, t.watchlist.lookup? k = if k ∈ gone then none else g.watchlist.lookup? k := by
  simp only [evict, Timestamp.goBack] at h
  split at h
  · cases h
    exact ⟨∅, Finset.empty_subset _, rfl, by simp⟩
  · cases h
  · rename_i cutoff hback
    split at hback
    · cases hback
    · split at hback
      · cases hback
        cases h
        exact ⟨_, subset_rfl, (g.watchlist.card_expired _).symm,
          g.watchlist.lookup?_purge_eq_ite _⟩
      · cases hback

/-- A round of forgetting whose cutoff is a date removes exactly what has expired and gives the
number of these records. A second one at the same time removes nothing, and one with a longer time
removes no others. -/
theorem evict_removes_expired (g : Gateway) (now : Timestamp) (olderThan : Duration)
    (hindex : g.watchlist.Indexed) (hnow : now.hasDate = true)
    (hthen : (⟨now.nanos - olderThan.nanos⟩ : Timestamp).hasDate = true) :
    ∃ t gone, g.evict now olderThan = .ok (t, gone.card) ∧
      g.Forgets t ⟨now.nanos - olderThan.nanos⟩ gone ∧
      t.evict now olderThan = .ok (t, 0) ∧
      ∀ longer u n, olderThan.nanos ≤ longer.nanos → g.evict now longer = .ok (u, n) →
        ∃ fewer ⊆ gone, n = fewer.card ∧ ∀ h, u.watchlist.lookup? h =
          if h ∈ fewer then none else g.watchlist.lookup? h := by
  refine ⟨_, _, evict_of_hasDate hnow hthen, forgets_purge hindex _, ?_, ?_⟩
  · have hempty := g.watchlist.expired_purge (le_refl (now.nanos - olderThan.nanos))
    rw [evict_of_hasDate hnow hthen]
    simp only [hempty, Watchlist.purge_eq_self hempty, Finset.card_empty]
  · intro longer u n hle hevict
    obtain ⟨fewer, hfewer, hn, hlookup⟩ := exists_gone_of_evict hevict
    refine ⟨fewer, hfewer.trans (g.watchlist.expired_subset ?_), hn, hlookup⟩
    change now.nanos - longer.nanos ≤ now.nanos - olderThan.nanos
    omega

/-- Two dropped transactions of one nonce expire together. The entry of the index has been taken
over by the transaction that uses the nonce again, so it stays. -/
theorem evict_reused : ∃ t gone, reused.evict ⟨100⟩ ⟨50⟩ = .ok (t, gone.card) ∧ gone.card = 2 ∧
    reused.Forgets t ⟨50⟩ gone ∧ t.watchlist.holders.get? (⟨0⟩, 5) = some ⟨2⟩ := by
  obtain ⟨t, gone, hevict, hforgets, -⟩ := evict_removes_expired reused ⟨100⟩ ⟨50⟩
    reached_reused.complete.indexed (by decide) (by decide)
  have hcount : (reused.evict ⟨100⟩ ⟨50⟩).map Prod.snd = .ok 2 := by decide +kernel
  have hheld : (reused.evict ⟨100⟩ ⟨50⟩).map (·.1.watchlist.holders.get? (⟨0⟩, 5)) =
      .ok (some ⟨2⟩) := by decide +kernel
  rw [hevict] at hcount hheld
  exact ⟨t, gone, hevict, Except.ok.inj hcount, hforgets, Except.ok.inj hheld⟩

end Gateway

end TxGateway
