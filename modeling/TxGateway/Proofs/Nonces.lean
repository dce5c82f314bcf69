import TxGateway.Ledger
import Mathlib.Data.Finset.Sort
import Mathlib.Data.Finset.Lattice.Fold
import Mathlib.Order.Bounds.Basic
import Mathlib.Order.Lattice.Nat

/-!
# Ascending nonces and the book of an account

A ledger keeps its pending nonces as an ascending list. Its book is what the list and the confirmed
count amount to: a floor and a finite set. The three searches of a ledger are least numbers of the
book: the free nonce, the place of an inserted one, and the end of a roll back.
-/

namespace TxGateway

namespace Ledger

theorem mem_insertAscending (n : Nat) (ps : List Nat) (m : Nat) :
    m ∈ insertAscending n ps ↔ m = n ∨ m ∈ ps := by
  induction ps with
  | nil => simp [insertAscending]
  | cons p ps ih =>
      by_cases hlt : n < p
      · simp [insertAscending, hlt]
      · by_cases heq : n = p
        · subst heq
          simp [insertAscending]
        · simp only [insertAscending, hlt, heq, if_false, List.mem_cons, ih]
          exact or_left_comm

theorem pairwise_insertAscending (n : Nat) (ps : List Nat) (h : ps.Pairwise (· < ·)) :
    (insertAscending n ps).Pairwise (· < ·) := by
  induction ps with
  | nil => simp [insertAscending]
  | cons p ps ih =>
      obtain ⟨hp, hps⟩ := List.pairwise_cons.mp h
      by_cases hlt : n < p
      · have hn : ∀ q ∈ p :: ps, n < q := by
          intro q hq
          rcases List.mem_cons.mp hq with rfl | hq
          · exact hlt
          · exact hlt.trans (hp q hq)
        simpa only [insertAscending, hlt, if_true] using List.pairwise_cons.mpr ⟨hn, h⟩
      · by_cases heq : n = p
        · simpa only [insertAscending, heq, lt_irrefl, if_false, if_true] using h
        · simp only [insertAscending, hlt, heq, if_false]
          refine List.pairwise_cons.mpr ⟨?_, ih hps⟩
          intro q hq
          rcases (mem_insertAscending n ps q).mp hq with rfl | hq
          · omega
          · exact hp q hq

/-- The search for a free number from a start on finds the least one. -/
theorem firstFree_isLeast (start : Nat) (ps : List Nat) (h : ps.Pairwise (· < ·)) :
    IsLeast {n | start ≤ n ∧ n ∉ ps} (firstFree start ps) := by
  induction ps generalizing start with
  | nil => exact ⟨by simp [firstFree], fun n hn => hn.1⟩
  | cons p ps ih =>
      obtain ⟨hp, hps⟩ := List.pairwise_cons.mp h
      rcases Nat.lt_trichotomy p start with hlt | heq | hgt
      · have hset : {n | start ≤ n ∧ n ∉ p :: ps} = {n | start ≤ n ∧ n ∉ ps} := by
          ext n
          simp only [Set.mem_ofPred_eq, List.mem_cons, not_or]
          refine ⟨fun hn => ⟨hn.1, hn.2.2⟩, fun hn => ⟨hn.1, ?_, hn.2⟩⟩
          have := hn.1
          omega
        simpa only [firstFree, hlt, if_true, hset] using ih start hps
      · subst heq
        have hset : {n | p ≤ n ∧ n ∉ p :: ps} = {n | p + 1 ≤ n ∧ n ∉ ps} := by
          ext n
          simp only [Set.mem_ofPred_eq, List.mem_cons, not_or]
          refine ⟨fun hn => ⟨?_, hn.2.2⟩, fun hn => ⟨?_, ?_, hn.2⟩⟩
          · have := hn.1
            have := hn.2.1
            omega
          · have := hn.1
            omega
          · have := hn.1
            omega
        simpa only [firstFree, lt_irrefl, if_false, if_true, hset] using ih (p + 1) hps
      · have hfree : start ∉ p :: ps := by
          rw [List.mem_cons, not_or]
          refine ⟨by omega, fun hs => ?_⟩
          have := hp start hs
          omega
        have hne : p ≠ start := by omega
        have hle : ¬ p < start := by omega
        simp only [firstFree, hle, hne, if_false]
        exact ⟨⟨le_rfl, hfree⟩, fun n hn => hn.1⟩

/-- Pulling back stops at the least number that is at the floor and above everything held. -/
theorem rollBack_isLeast (floor : Nat) (ps : List Nat) (n : Nat) (hfloor : floor ≤ n)
    (hps : ∀ q ∈ ps, q < n) : IsLeast {m | floor ≤ m ∧ ∀ q ∈ ps, q < m} (rollBack floor ps n) := by
  induction n with
  | zero => exact ⟨⟨hfloor, hps⟩, fun m _ => Nat.zero_le m⟩
  | succ n ih =>
      by_cases hback : floor ≤ n ∧ n ∉ ps
      · simp only [rollBack, hback, not_false_eq_true, and_self, if_true]
        refine ih hback.1 fun q hq => ?_
        have hne : q ≠ n := fun h => hback.2 (h ▸ hq)
        have := hps q hq
        omega
      · simp only [rollBack, hback, if_false]
        refine ⟨⟨hfloor, hps⟩, fun m hm => ?_⟩
        by_contra hlt
        apply hback
        refine ⟨?_, fun hn => ?_⟩
        · have := hm.1
          omega
        · have := hm.2 n hn
          omega

theorem rollBack_congr {ps qs : List Nat} (h : ∀ m, m ∈ qs ↔ m ∈ ps) (floor n : Nat) :
    rollBack floor qs n = rollBack floor ps n := by
  induction n with
  | zero => rfl
  | succ n ih => simp only [rollBack, h, ih]

/-- Pulling back over fewer held numbers goes further: to have pulled back before makes no
difference. -/
theorem rollBack_rollBack {ps qs : List Nat} (h : ∀ m ∈ qs, m ∈ ps) (floor n : Nat) :
    rollBack floor qs (rollBack floor ps n) = rollBack floor qs n := by
  induction n with
  | zero => rfl
  | succ n ih =>
      by_cases hback : floor ≤ n ∧ n ∉ ps
      · have hback' : floor ≤ n ∧ n ∉ qs := ⟨hback.1, fun hn => hback.2 (h n hn)⟩
        rw [rollBack, if_pos hback, ih, rollBack, if_pos hback']
      · rw [rollBack, if_neg hback]

end Ledger

/-- The nonces of an account as a set: those below the floor are used up, and of the others the
members of the set are handed out. -/
@[ext] structure Book where
  /-- The confirmed count. -/
  floor : Nat
  /-- The nonces that are handed out. -/
  held : Finset Nat

namespace Book

/-- The least number at the floor and above everything held. -/
def ceiling (b : Book) : Nat := max b.floor (b.held.sup Nat.succ)

theorem isLeast_ceiling (b : Book) :
    IsLeast {m | b.floor ≤ m ∧ ∀ n ∈ b.held, n < m} b.ceiling := by
  constructor
  · refine ⟨le_max_left _ _, fun n hn => ?_⟩
    exact lt_of_lt_of_le (Nat.lt_succ_self n) ((Finset.le_sup hn).trans (le_max_right _ _))
  · intro m hm
    exact max_le hm.1 (Finset.sup_le fun n hn => hm.2 n hn)

theorem floor_le_ceiling (b : Book) : b.floor ≤ b.ceiling := b.isLeast_ceiling.1.1

theorem lt_ceiling (b : Book) {n : Nat} (h : n ∈ b.held) : n < b.ceiling :=
  b.isLeast_ceiling.1.2 n h

theorem ceiling_not_held (b : Book) : b.ceiling ∉ b.held := fun h => (b.lt_ceiling h).ne rfl

theorem exists_free (b : Book) : ∃ n, b.floor ≤ n ∧ n ∉ b.held :=
  ⟨b.ceiling, b.floor_le_ceiling, b.ceiling_not_held⟩

/-- The least nonce that is neither used up nor handed out. -/
def free (b : Book) : Nat := Nat.find b.exists_free

theorem isLeast_free (b : Book) : IsLeast {n | b.floor ≤ n ∧ n ∉ b.held} b.free :=
  ⟨Nat.find_spec b.exists_free, fun _ hn => Nat.find_min' b.exists_free hn⟩

theorem floor_le_free (b : Book) : b.floor ≤ b.free := b.isLeast_free.1.1

theorem free_le_ceiling (b : Book) : b.free ≤ b.ceiling :=
  b.isLeast_free.2 ⟨b.floor_le_ceiling, b.ceiling_not_held⟩

/-- Hands out a nonce. -/
def hold (b : Book) (n : Nat) : Book := { b with held := insert n b.held }

/-- Takes a nonce back. -/
def drop (b : Book) (n : Nat) : Book := { b with held := b.held.erase n }

/-- Takes in a confirmed count; what falls below the floor is used up. -/
def raise (b : Book) (count : Nat) : Book where
  floor := max b.floor count
  held := b.held.filter (max b.floor count ≤ ·)

theorem ceiling_hold (b : Book) (n : Nat) : (b.hold n).ceiling = max b.ceiling (n + 1) := by
  simp only [ceiling, hold, Finset.sup_insert, Nat.succ_eq_add_one]
  exact Nat.max_left_comm _ _ _ |>.trans (Nat.max_comm _ _)

theorem ceiling_raise (b : Book) (count : Nat) : (b.raise count).ceiling = max b.ceiling count := by
  apply (b.raise count).isLeast_ceiling.unique
  constructor
  · refine ⟨max_le_max b.floor_le_ceiling le_rfl, fun n hn => ?_⟩
    exact lt_of_lt_of_le (b.lt_ceiling (Finset.mem_filter.mp hn).1) (le_max_left _ _)
  · rintro m ⟨hfloor, hheld⟩
    refine max_le ?_ ((le_max_right _ _).trans hfloor)
    refine b.isLeast_ceiling.2 ⟨(le_max_left _ _).trans hfloor, fun n hn => ?_⟩
    -- What was held is still held, or it lies below the new floor.
    by_cases hkept : max b.floor count ≤ n
    · exact hheld n (Finset.mem_filter.mpr ⟨hn, hkept⟩)
    · exact lt_of_lt_of_le (not_le.mp hkept) hfloor

end Book

end TxGateway
