import TxGateway.Table
import Mathlib.Algebra.BigOperators.Group.Multiset.Basic
import Mathlib.Algebra.Order.Group.Multiset

/-!
# What the values of a table amount to together

Each value of a table stands for some things; a tally collects the things of all values. Storing or
removing a value changes the tally by the things of that value only.
-/

namespace TxGateway

/-- A thing that is not there twice is not in both of two parts. -/
theorem not_mem_of_count_add_le {τ : Type} [DecidableEq τ] {x : τ} {m n : Multiset τ}
    (h : (m + n).count x ≤ 1) (hm : x ∈ m) : x ∉ n := by
  intro hn
  rw [Multiset.count_add] at h
  have := Multiset.one_le_count_iff_mem.mpr hm
  have := Multiset.one_le_count_iff_mem.mpr hn
  omega

namespace Entries

variable {κ α τ : Type} (f : α → Multiset τ)

/-- The things that the values of a list of entries stand for. -/
def tally (es : List (κ × α)) : Multiset τ := (es.map fun e => f e.2).sum

theorem tally_cons (e : κ × α) (es : List (κ × α)) : tally f (e :: es) = f e.2 + tally f es := by
  simp [tally]

theorem tally_filter_le (p : κ × α → Bool) (es : List (κ × α)) :
    tally f (es.filter p) ≤ tally f es := by
  induction es with
  | nil => exact le_rfl
  | cons e es ih =>
      by_cases hp : p e = true
      · rw [List.filter_cons_of_pos hp, tally_cons, tally_cons]
        exact add_le_add_right ih _
      · rw [List.filter_cons_of_neg hp, tally_cons]
        exact ih.trans (Multiset.le_add_left _ _)

variable [DecidableEq κ]

theorem tally_set_of_none {k : κ} {es : List (κ × α)} (h : get? k es = none) (a : α) :
    tally f (set k a es) = f a + tally f es := by
  induction es with
  | nil => simp [set, tally]
  | cons e es ih =>
      by_cases hk : e.1 = k
      · simp [get?, hk] at h
      · simp only [get?, hk, if_false] at h
        simp only [set, hk, if_false, tally_cons, ih h]
        exact add_left_comm _ _ _

theorem get?_eq_none_of_not_mem {k : κ} {es : List (κ × α)} (h : k ∉ es.map Prod.fst) :
    get? k es = none := by
  induction es with
  | nil => rfl
  | cons e es ih =>
      simp only [List.map_cons, List.mem_cons, not_or] at h
      simp only [get?, Ne.symm h.1, if_false, ih h.2]

theorem mem_keys_of_get? {k : κ} {b : α} {es : List (κ × α)} (h : get? k es = some b) :
    k ∈ es.map Prod.fst := by
  by_contra hk
  rw [get?_eq_none_of_not_mem hk] at h
  cases h

theorem get?_append (k : κ) (es fs : List (κ × α)) :
    get? k (es ++ fs) = (get? k es).or (get? k fs) := by
  induction es with
  | nil => rfl
  | cons e es ih =>
      simp only [List.cons_append, get?]
      split
      · rfl
      · exact ih

theorem mem_of_get? {k : κ} {b : α} {es : List (κ × α)} (h : get? k es = some b) :
    (k, b) ∈ es := by
  induction es with
  | nil => cases h
  | cons e es ih =>
      simp only [get?] at h
      split at h
      · rename_i hk
        cases h
        subst hk
        exact List.mem_cons_self
      · exact List.mem_cons_of_mem _ (ih h)

theorem filter_ne_eq_self {k : κ} {es : List (κ × α)} (h : k ∉ es.map Prod.fst) :
    es.filter (fun e => decide (e.1 ≠ k)) = es := by
  apply List.filter_eq_self.mpr
  intro e he
  simp only [ne_eq, decide_not, Bool.not_eq_true', decide_eq_false_iff_not]
  rintro rfl
  exact h (List.mem_map_of_mem he)

/-- A tally is what one value stands for and a rest, which does not depend on that value. -/
theorem exists_rest {k : κ} {b : α} {es : List (κ × α)} (hn : (es.map Prod.fst).Nodup)
    (h : get? k es = some b) :
    ∃ rest, tally f es = f b + rest ∧ (∀ a, tally f (set k a es) = f a + rest) ∧
      tally f (es.filter fun e => decide (e.1 ≠ k)) = rest := by
  induction es with
  | nil => cases h
  | cons e es ih =>
      simp only [List.map_cons, List.nodup_cons] at hn
      by_cases hk : e.1 = k
      · simp only [get?, hk, if_true, Option.some.injEq] at h
        refine ⟨tally f es, by rw [tally_cons, h], fun a => ?_, ?_⟩
        · simp only [set, hk, if_true, tally_cons]
        · subst hk
          rw [List.filter_cons_of_neg (by simp), filter_ne_eq_self hn.1]
      · simp only [get?, hk, if_false] at h
        obtain ⟨rest, hall, hset, herase⟩ := ih hn.2 h
        refine ⟨f e.2 + rest, ?_, fun a => ?_, ?_⟩
        · rw [tally_cons, hall, add_left_comm]
        · simp only [set, hk, if_false, tally_cons, hset, add_left_comm]
        · rw [List.filter_cons_of_pos (by simpa using hk), tally_cons, herase]

theorem mem_tally {x : τ} {es : List (κ × α)} (hn : (es.map Prod.fst).Nodup) :
    x ∈ tally f es ↔ ∃ k b, get? k es = some b ∧ x ∈ f b := by
  induction es with
  | nil => simp [tally, get?]
  | cons e es ih =>
      simp only [List.map_cons, List.nodup_cons] at hn
      rw [tally_cons, Multiset.mem_add, ih hn.2]
      constructor
      · rintro (hx | ⟨k, b, hget, hx⟩)
        · exact ⟨e.1, e.2, by simp [get?], hx⟩
        · refine ⟨k, b, ?_, hx⟩
          have hk : e.1 ≠ k := by
            rintro rfl
            rw [get?_eq_none_of_not_mem hn.1] at hget
            cases hget
          simp only [get?, hk, if_false, hget]
      · rintro ⟨k, b, hget, hx⟩
        by_cases hk : e.1 = k
        · simp only [get?, hk, if_true, Option.some.injEq] at hget
          exact .inl (hget ▸ hx)
        · simp only [get?, hk, if_false] at hget
          exact .inr ⟨k, b, hget, hx⟩

/-- A thing that is not tallied twice comes from one key only. -/
theorem eq_of_mem [DecidableEq τ] {x : τ} {i j : κ} {b c : α} {es : List (κ × α)}
    (hn : (es.map Prod.fst).Nodup) (hall : (tally f es).count x ≤ 1) (hi : get? i es = some b)
    (hj : get? j es = some c) (hb : x ∈ f b) (hc : x ∈ f c) : i = j := by
  by_contra hne
  obtain ⟨rest, hsum, -, herase⟩ := exists_rest f hn hi
  rw [hsum] at hall
  refine not_mem_of_count_add_le hall hb ?_
  have hsub := (List.filter_sublist (l := es) (p := fun e => decide (e.1 ≠ i))).map Prod.fst
  rw [← herase, mem_tally f (hn.sublist hsub)]
  refine ⟨j, c, ?_, hc⟩
  rw [get?_filter _ es hn, hj]
  simp [Option.filter, Ne.symm hne]

end Entries

namespace Table

variable {κ α τ : Type} (f : α → Multiset τ)

/-- The things that the values of a table stand for. -/
def tally (t : Table κ α) : Multiset τ := Entries.tally f t.entries

theorem tally_filter_le (t : Table κ α) (p : κ → α → Bool) : (t.filter p).tally f ≤ t.tally f :=
  Entries.tally_filter_le f _ t.entries

variable [DecidableEq κ] {t : Table κ α} {k : κ} {b : α}

theorem tally_set_of_none (h : t.get? k = none) (a : α) :
    (t.set k a).tally f = f a + t.tally f :=
  Entries.tally_set_of_none f h a

/-- A tally is what one value stands for and a rest, which does not depend on that value. -/
theorem exists_rest (h : t.get? k = some b) :
    ∃ rest, t.tally f = f b + rest ∧ (∀ a, (t.set k a).tally f = f a + rest) ∧
      (t.erase k).tally f = rest :=
  Entries.exists_rest f t.nodup h

theorem mem_tally {x : τ} : x ∈ t.tally f ↔ ∃ k b, t.get? k = some b ∧ x ∈ f b :=
  Entries.mem_tally f t.nodup

theorem le_tally (h : t.get? k = some b) : f b ≤ t.tally f := by
  obtain ⟨rest, hall, -⟩ := t.exists_rest f h
  rw [hall]
  exact Multiset.le_add_right _ _

/-- A thing that is not tallied twice comes from one key only. -/
theorem eq_of_mem [DecidableEq τ] {x : τ} {i j : κ} {b c : α} (hall : (t.tally f).count x ≤ 1)
    (hi : t.get? i = some b) (hj : t.get? j = some c) (hb : x ∈ f b) (hc : x ∈ f c) : i = j :=
  Entries.eq_of_mem f t.nodup hall hi hj hb hc

end Table

end TxGateway
