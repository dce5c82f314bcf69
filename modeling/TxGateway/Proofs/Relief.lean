import TxGateway.Proofs.Errands
import Mathlib.Data.List.Count

/-!
# What errands come to in any order

Errands of several polls are done one after another in some order. What they make of a ledger
depends on which of them are among them only: wherever the next nonce stands, pulling it back twice
is the same as pulling it back once over what both have left. The same holds of the store, if there
is one record to be stored for each hash. So it is enough to know which errands the polls of a list
of transactions have between them.
-/

namespace TxGateway

/-- A ledger after some nonces have been given back, if they were pending. If there were any such
nonces at all, the chain has to be asked before the next submission. -/
structure Ledger.Relieved (l : Ledger) (gone : Nat → Prop) (t : Ledger) : Prop where
  /-- The confirmed count is the same. -/
  confirmed_eq : t.confirmed = l.confirmed
  /-- The chain has been asked, or has not, as before. -/
  seeded_eq : t.seeded = l.seeded
  /-- The other nonces stay pending. -/
  mem_pending : ∀ n, n ∈ t.pending ↔ n ∈ l.pending ∧ ¬ gone n
  /-- The pending nonces are ascending. -/
  ascending : t.pending.Pairwise (· < ·)
  /-- The next nonce is pulled back over what is not pending any more. -/
  rolled : (∃ n ∈ l.pending, gone n) → t.next = rollBack l.confirmed t.pending l.next
  /-- If all pending nonces stay, it does not change. -/
  unrolled : (∀ n ∈ l.pending, ¬ gone n) → t.next = l.next
  /-- In a ledger that was kept, the next nonce is the least one that is not confirmed and comes
  after all pending ones. -/
  isLeast_next : l.Kept → IsLeast {n | t.confirmed ≤ n ∧ ∀ k ∈ t.pending, k < n} t.next
  /-- The ledger is stale if there were nonces to give back. -/
  stale : (∃ n, gone n) → t.refreshedAt = none
  /-- It is as old as before if there were none. -/
  fresh : (∀ n, ¬ gone n) → t.refreshedAt = l.refreshedAt

/-- Which nonces are given back decides what the ledger is. -/
theorem Ledger.Relieved.unique {l t t' : Ledger} {gone : Nat → Prop} (h : l.Relieved gone t)
    (h' : l.Relieved gone t') : t' = t := by
  have hconfirmed : t'.confirmed = t.confirmed := h'.confirmed_eq.trans h.confirmed_eq.symm
  have hseeded : t'.seeded = t.seeded := h'.seeded_eq.trans h.seeded_eq.symm
  have hmem : ∀ n, n ∈ t'.pending ↔ n ∈ t.pending := fun n => by
    rw [h.mem_pending, h'.mem_pending]
  have hpending : t'.pending = t.pending := by
    have hperm : t'.pending.Perm t.pending :=
      (List.perm_ext_iff_of_nodup (h'.ascending.imp Nat.ne_of_lt)
        (h.ascending.imp Nat.ne_of_lt)).mpr hmem
    exact hperm.eq_of_pairwise (fun _ _ _ _ hlt hgt => absurd hlt (Nat.lt_asymm hgt)) h'.ascending
      h.ascending
  have hnext : t'.next = t.next := by
    by_cases hany : ∃ n ∈ l.pending, gone n
    · rw [h.rolled hany, h'.rolled hany, hpending]
    · have hnone : ∀ n ∈ l.pending, ¬ gone n := fun n hn hgone => hany ⟨n, hn, hgone⟩
      rw [h.unrolled hnone, h'.unrolled hnone]
  have hrefreshed : t'.refreshedAt = t.refreshedAt := by
    by_cases hany : ∃ n, gone n
    · rw [h.stale hany, h'.stale hany]
    · rw [not_exists] at hany
      rw [h.fresh hany, h'.fresh hany]
  cases t
  cases t'
  simp only at hconfirmed hseeded hpending hnext hrefreshed
  subst hconfirmed hseeded hpending hnext hrefreshed
  rfl

/-- So it is for the ledger of an account, which may be missing. -/
theorem Ledger.Relieved.rel_unique {o t t' : Option Ledger} {gone : Nat → Prop}
    (h : Option.Rel (fun l t => l.Relieved gone t) o t)
    (h' : Option.Rel (fun l t => l.Relieved gone t) o t') : t' = t := by
  cases h with
  | none =>
      cases h'
      rfl
  | some hrelieved =>
      cases h' with
      | some hrelieved' => exact congrArg some (hrelieved.unique hrelieved')

/-- A ledger after some errands: it lacks what has been given back. -/
structure Ledger.RelievedBy (a : Address) (es : List Errand) (l t : Ledger) : Prop where
  /-- The pending nonces are ascending. -/
  ascending : t.pending.Pairwise (· < ·)
  /-- The ledger is kept if it was. -/
  kept : l.Kept → t.Kept
  /-- The confirmed count is the same. -/
  confirmed_eq : t.confirmed = l.confirmed
  /-- The chain has been asked, or has not, as before. -/
  seeded_eq : t.seeded = l.seeded
  /-- What has not been given back stays pending. -/
  mem_pending : ∀ n, n ∈ t.pending ↔ n ∈ l.pending ∧ Errand.giveBack a n ∉ es
  /-- The next nonce is pulled back if a pending one has been given back. -/
  next_eq : t.next = if ∃ n ∈ l.pending, Errand.giveBack a n ∈ es then
    rollBack l.confirmed t.pending l.next else l.next
  /-- The ledger is stale if it was to be made so. -/
  refreshedAt_eq : t.refreshedAt = if Errand.expire a ∈ es then none else l.refreshedAt

namespace Ledger

variable {a : Address} {es es' : List Errand} {l t u : Ledger}

theorem RelievedBy.refl (h : l.pending.Pairwise (· < ·)) (a : Address) : l.RelievedBy a [] l :=
  ⟨h, id, rfl, rfl, by simp, by simp, by simp⟩

theorem RelievedBy.trans (h : RelievedBy a es l t) (h' : RelievedBy a es' t u) :
    RelievedBy a (es ++ es') l u where
  ascending := h'.ascending
  kept := h'.kept ∘ h.kept
  confirmed_eq := h'.confirmed_eq.trans h.confirmed_eq
  seeded_eq := h'.seeded_eq.trans h.seeded_eq
  mem_pending := fun n => by
    rw [h'.mem_pending, h.mem_pending, List.mem_append, not_or, and_assoc]
  next_eq := by
    have hsub : ∀ n ∈ u.pending, n ∈ t.pending := fun n hn => ((h'.mem_pending n).mp hn).1
    rw [h'.next_eq, h.next_eq, h.confirmed_eq]
    by_cases hlater : ∃ n ∈ t.pending, Errand.giveBack a n ∈ es'
    · have hany : ∃ n ∈ l.pending, Errand.giveBack a n ∈ es ++ es' := by
        obtain ⟨n, hn, hback⟩ := hlater
        exact ⟨n, ((h.mem_pending n).mp hn).1, List.mem_append_right _ hback⟩
      rw [if_pos hlater, if_pos hany]
      split
      · exact rollBack_rollBack hsub _ _
      · rfl
    · -- The later errands find nothing that is pending, and leave the pending nonces.
      have hsame : ∀ n, n ∈ u.pending ↔ n ∈ t.pending := fun n =>
        ⟨hsub n, fun hn => (h'.mem_pending n).mpr ⟨hn, fun hback => hlater ⟨n, hn, hback⟩⟩⟩
      have hiff : (∃ n ∈ l.pending, Errand.giveBack a n ∈ es ++ es') ↔
          ∃ n ∈ l.pending, Errand.giveBack a n ∈ es := by
        refine ⟨fun ⟨n, hn, hback⟩ => ?_, fun ⟨n, hn, hback⟩ =>
          ⟨n, hn, List.mem_append_left _ hback⟩⟩
        by_contra hnone
        have hstays : n ∈ t.pending :=
          (h.mem_pending n).mpr ⟨hn, fun hearlier => hnone ⟨n, hn, hearlier⟩⟩
        exact (List.mem_append.mp hback).elim (fun hearlier => hnone ⟨n, hn, hearlier⟩)
          fun hback => hlater ⟨n, hstays, hback⟩
      rw [if_neg hlater, rollBack_congr hsame]
      simp only [hiff]
  refreshedAt_eq := by
    rw [h'.refreshedAt_eq, h.refreshedAt_eq]
    by_cases hmem : Errand.expire a ∈ es <;> simp [hmem]

/-- An errand that is not about the ledger leaves it as it is. -/
theorem relievedBy_of_eq {e : Errand} (h : l.pending.Pairwise (· < ·))
    (hsame : e.onLedger a l = l) (hback : ∀ n ∈ l.pending, e ≠ .giveBack a n)
    (hexpire : e ≠ .expire a) : RelievedBy a [e] l (e.onLedger a l) := by
  have hback' : ∀ n ∈ l.pending, Errand.giveBack a n ∉ [e] := fun n hn hmem =>
    hback n hn (List.mem_singleton.mp hmem).symm
  rw [hsame]
  refine ⟨h, id, rfl, rfl, fun n => ⟨fun hn => ⟨hn, hback' n hn⟩, And.left⟩, ?_, ?_⟩
  · rw [if_neg]
    rintro ⟨n, hn, hmem⟩
    exact hback' n hn hmem
  · rw [if_neg]
    exact fun hmem => hexpire (List.mem_singleton.mp hmem).symm

theorem relievedBy_onLedger (h : l.pending.Pairwise (· < ·)) (a : Address) (e : Errand) :
    RelievedBy a [e] l (e.onLedger a l) := by
  cases e with
  | giveBack b n =>
      by_cases hb : a = b
      · subst hb
        cases hg : l.giveBack? n with
        | none =>
            have hn : n ∉ l.pending := by
              rwa [giveBack?_eq_none_iff, mem_book] at hg
            refine relievedBy_of_eq h (by simp [Errand.onLedger, hg]) ?_ (by simp)
            rintro m hm heq
            cases heq
            exact hn hm
        | some t =>
            have hkept : l.Kept → t.Kept := fun hl => (hl.giveBack hg).1
            obtain ⟨hn, rfl⟩ := eq_of_giveBack? hg
            simp only [Errand.onLedger, if_true, hg, Option.getD_some]
            refine ⟨h.filter _, hkept, rfl, rfl, by simp, ?_, by simp⟩
            rw [if_pos ⟨n, hn, List.mem_singleton_self _⟩]
      · exact relievedBy_of_eq h (by simp [Errand.onLedger, hb]) (by simp [Ne.symm hb]) (by simp)
  | expire b =>
      by_cases hb : a = b
      · subst hb
        simp only [Errand.onLedger, if_true]
        exact ⟨h, fun hl => hl.expire.1, rfl, rfl, by simp [expire], by simp [expire],
          by simp [expire]⟩
      · exact relievedBy_of_eq h (by simp [Errand.onLedger, hb]) (by simp) (by simp [Ne.symm hb])
  | _ => exact relievedBy_of_eq h rfl (by simp) (by simp)

/-- What errands make of a ledger depends on which they are, not on their order. -/
theorem relievedBy_foldl (h : l.pending.Pairwise (· < ·)) (a : Address) (es : List Errand) :
    RelievedBy a es l (es.foldl (fun t e => e.onLedger a t) l) := by
  induction es generalizing l with
  | nil => exact .refl h a
  | cons e es ih =>
      have hfirst := relievedBy_onLedger h a e
      exact hfirst.trans (ih hfirst.ascending)

/-- If whoever gives a nonce back also makes the ledger stale, the ledger is relieved. -/
theorem RelievedBy.relieved (h : RelievedBy a es l t) {gone : Nat → Prop}
    (hback : ∀ n, Errand.giveBack a n ∈ es ↔ gone n)
    (hexpire : Errand.expire a ∈ es ↔ ∃ n, gone n) : l.Relieved gone t where
  confirmed_eq := h.confirmed_eq
  seeded_eq := h.seeded_eq
  mem_pending := fun n => by rw [h.mem_pending, hback]
  ascending := h.ascending
  rolled := fun ⟨n, hn, hgone⟩ => by rw [h.next_eq, if_pos ⟨n, hn, (hback n).mpr hgone⟩]
  unrolled := fun hnone => by
    rw [h.next_eq, if_neg]
    rintro ⟨n, hn, hmem⟩
    exact hnone n hn ((hback n).mp hmem)
  isLeast_next := fun hl => by
    rw [(h.kept hl).next_eq]
    simpa using t.book.isLeast_ceiling
  stale := fun hany => by rw [h.refreshedAt_eq, if_pos (hexpire.mpr hany)]
  fresh := fun hnone => by
    rw [h.refreshedAt_eq, if_neg]
    rw [hexpire, not_exists]
    exact hnone

end Ledger

namespace Tidings

variable (w : Tidings) (p : Policy) (now : Timestamp)

/-- What a store holds after a question, if it takes the record. -/
def take (store : Table TxHash Record) : Query → Table TxHash Record
  | .saveRecord r => match w.fault? r.hash with
    | none => store.set r.hash r
    | some _ => store
  | _ => store

section

variable {w} {store : Table TxHash Record} {qs : List Query} {h : TxHash}

theorem get?_take (w : Tidings) (store : Table TxHash Record) (h : TxHash) (q : Query) :
    (w.take store q).get? h = store.get? h ∨
      ∃ r, q = .saveRecord r ∧ r.hash = h ∧ w.fault? h = none ∧
        (w.take store q).get? h = some r := by
  cases q with
  | saveRecord r =>
      simp only [take]
      split
      · rename_i hfault
        rw [Table.get?_set]
        split
        · rename_i hh
          subst hh
          exact .inr ⟨r, rfl, rfl, hfault, rfl⟩
        · exact .inl rfl
      · exact .inl rfl
  | _ => exact .inl rfl

/-- A store that is given no record for a hash, or does not take it, holds the one that it has
held. -/
theorem get?_foldl_take_of_untaken
    (hno : ∀ r, .saveRecord r ∈ qs → r.hash = h → w.fault? h ≠ none) :
    (qs.foldl w.take store).get? h = store.get? h := by
  induction qs generalizing store with
  | nil => rfl
  | cons q qs ih =>
      rw [List.foldl_cons, ih fun r hr => hno r (List.mem_cons_of_mem _ hr)]
      rcases w.get?_take store h q with hsame | ⟨r, rfl, hh, hfault, -⟩
      · exact hsame
      · exact absurd hfault (hno r List.mem_cons_self hh)

/-- A store that takes a record, and is given no other one for its hash, holds it. -/
theorem get?_foldl_take_of_taken {r : Record} (hr : .saveRecord r ∈ qs) (hh : r.hash = h)
    (hfault : w.fault? h = none) (honly : ∀ r', .saveRecord r' ∈ qs → r'.hash = h → r' = r) :
    (qs.foldl w.take store).get? h = some r := by
  -- The last question for this hash stores the record, and it stays.
  induction qs using List.reverseRecOn with
  | nil => cases hr
  | append_singleton qs q ih =>
      rw [List.foldl_append, List.foldl_cons, List.foldl_nil]
      rcases w.get?_take (qs.foldl w.take store) h q with
        hsame | ⟨r', rfl, hh', -, hset⟩
      · rw [hsame]
        rcases List.mem_append.mp hr with hr | hr
        · exact ih hr fun r' hr' => honly r' (List.mem_append_left _ hr')
        · rw [List.mem_singleton] at hr
          subst hr
          subst hh
          simp only [take, hfault, Table.get?_set_self] at hsame
          exact hsame.symm
      · rw [hset, honly r' (List.mem_append_right _ List.mem_cons_self) hh']

end

section

variable {w p now} {r : Record}

@[simp] theorem hash_polled : (w.polled p now r).hash = r.hash := by
  simp only [polled]
  split <;> rfl

@[simp] theorem account_polled : (w.polled p now r).account = r.account := by
  simp only [polled]
  split <;> rfl

@[simp] theorem nonce_polled : (w.polled p now r).nonce = r.nonce := by
  simp only [polled]
  split <;> rfl

theorem mem_followUps_giveBack {a : Address} {n : Nat} :
    .giveBack a n ∈ followUps r ↔ r.status = .dropped ∧ r.account = a ∧ r.nonce = n := by
  simp only [followUps]
  split
  · simp [*, eq_comm]
  · split <;> simp [*]

theorem mem_followUps_expire {a : Address} :
    .expire a ∈ followUps r ↔ r.status = .dropped ∧ r.account = a := by
  simp only [followUps]
  split
  · simp [*, eq_comm]
  · split <;> simp [*]

theorem mem_followUps_save {r' : Record} :
    .save r' ∈ followUps r ↔ r.status.isFinal = true ∧ r' = r := by
  simp only [followUps]
  split
  · simp [*, Status.isFinal]
  · split <;> simp [*]

theorem countP_isSave_followUps :
    (followUps r).countP Errand.isSave = if r.status.isFinal then 1 else 0 := by
  simp only [followUps]
  split
  · simp [*, Status.isFinal, Errand.isSave]
  · split <;> simp [*, Errand.isSave]

/-- What follows a poll asks the chain nothing. -/
theorem not_isOutward_of_mem_followUps {e : Errand} (he : e ∈ followUps r) :
    e.query.isOutward = false := by
  simp only [followUps] at he
  split at he
  · simp only [List.mem_cons, List.not_mem_nil, or_false] at he
    rcases he with rfl | rfl | rfl <;> rfl
  · split at he
    · rw [List.mem_singleton] at he
      subst he
      rfl
    · cases he

theorem length_plan_le : (w.plan p now r).length ≤ 5 := by
  simp only [plan, followUps, List.length_cons, List.length_append]
  split <;> split <;> (try split) <;> simp

end

end Tidings

end TxGateway
