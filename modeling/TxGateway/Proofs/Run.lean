import TxGateway.System
import Mathlib.Data.List.Induction
import Mathlib.Data.Nat.Init

/-!
# Runs of a gateway

A run is a list of moments, each an event of the calls in progress or a wish of the operator. Any
call may be started, answered or dropped at any moment, with any answer, so a run is any
interleaving of the calls at the places where they wait. A run begins with a fresh gateway.
-/

namespace TxGateway

/-- What can happen to a gateway. -/
inductive Happening
  /-- Something happens to a call. -/
  | event (e : System.Event)
  /-- Final records that were last touched long ago are forgotten. -/
  | evict (olderThan : Duration)
  /-- The monitor is asked to end. -/
  | close

/-- What happens, and when. -/
structure Moment where
  /-- The time. -/
  now : Timestamp
  /-- What happens. -/
  what : Happening

namespace System

/-- The system after a moment. A round of forgetting that breaks off leaves everything as it is. -/
def pass (p : Policy) (s : System) (m : Moment) : System :=
  match m.what with
  | .event e => (s.step p m.now e).1
  | .evict olderThan => match s.gateway.evict m.now olderThan with
    | .ok (g, _) => { s with gateway := g }
    | .error _ => s
  | .close => { s with gateway := { s.gateway with closing := true } }

/-- A fresh system after a list of moments. -/
def after (p : Policy) (ms : List Moment) : System := ms.foldl (pass p) {}

/-- The system in a run just before a moment with a number. -/
def upTo (p : Policy) (ms : List Moment) (k : Nat) : System := after p (ms.take k)

@[simp] theorem after_nil (p : Policy) : after p [] = {} := rfl

theorem after_append (p : Policy) (ms : List Moment) (m : Moment) :
    after p (ms ++ [m]) = (after p ms).pass p m := by
  simp [after]

/-- What holds at first and survives every moment holds after every run. -/
theorem after_induction {p : Policy} {P : System → Prop} (ms : List Moment) (hzero : P {})
    (hpass : ∀ m ∈ ms, ∀ s, P s → P (s.pass p m)) : P (after p ms) := by
  induction ms using List.reverseRecOn with
  | nil => exact hzero
  | append_singleton ms m ih =>
      rw [after_append]
      apply hpass m (by simp)
      exact ih fun n hn => hpass n (by simp [hn])

theorem upTo_length (p : Policy) (ms : List Moment) : upTo p ms ms.length = after p ms := by
  rw [upTo, List.take_length]

theorem upTo_succ {p : Policy} {ms : List Moment} {k : Nat} {m : Moment} (h : ms[k]? = some m) :
    upTo p ms (k + 1) = (upTo p ms k).pass p m := by
  obtain ⟨hk, hm⟩ := List.getElem?_eq_some_iff.mp h
  rw [upTo, List.take_succ_eq_append_getElem hk, hm, after_append]
  rfl

/-- What holds at first and survives the moments of a run where they stand holds at every one. -/
theorem upTo_induction_fresh {p : Policy} {ms : List Moment} {P : System → Prop} (hzero : P {})
    (hpass : ∀ k m, ms[k]? = some m → P (upTo p ms k) → P (upTo p ms (k + 1))) (k : Nat) :
    P (upTo p ms k) := by
  induction k with
  | zero => exact hzero
  | succ k ih =>
      cases hm : ms[k]? with
      | some m => exact hpass k m hm ih
      | none =>
          have hlen := List.getElem?_eq_none_iff.mp hm
          rw [upTo, List.take_of_length_le hlen] at ih
          rwa [upTo, List.take_of_length_le (Nat.le_succ_of_le hlen)]

theorem le_length {ms : List Moment} {k : Nat} {m : Moment} (h : ms[k]? = some m) :
    k ≤ ms.length := by
  obtain ⟨hk, -⟩ := List.getElem?_eq_some_iff.mp h
  exact Nat.le_of_lt hk

/-- What comes to hold between two moments has a last moment at which it does not hold. -/
theorem exists_last_not {P : Nat → Prop} {i k : Nat} (hik : i ≤ k) (hi : ¬ P i) (hk : P k) :
    ∃ j, i ≤ j ∧ j < k ∧ ¬ P j ∧ ∀ l, j < l → l ≤ k → P l := by
  induction k, hik using Nat.le_induction with
  | base => exact absurd hk hi
  | succ k hik ih =>
      by_cases hP : P k
      · obtain ⟨j, hij, hjk, hj, hall⟩ := ih hP
        refine ⟨j, hij, Nat.lt_succ_of_lt hjk, hj, fun l hjl hlk => ?_⟩
        rcases Nat.lt_or_eq_of_le hlk with hlt | rfl
        · exact hall l hjl (Nat.le_of_lt_succ hlt)
        · exact hk
      · refine ⟨k, hik, Nat.lt_succ_self k, hP, fun l hkl hlk => ?_⟩
        obtain rfl : l = k + 1 := by omega
        exact hk

/-- What holds somewhere in a run and survives the moments that follow holds from there on. -/
theorem upTo_induction {p : Policy} {ms : List Moment} {P : Nat → System → Prop} {i j : Nat}
    (hij : i ≤ j) (hj : j ≤ ms.length) (hi : P i (upTo p ms i))
    (hpass : ∀ k m, i ≤ k → k < j → ms[k]? = some m → P k (upTo p ms k) →
      P (k + 1) ((upTo p ms k).pass p m)) :
    P j (upTo p ms j) := by
  induction j, hij using Nat.le_induction with
  | base => exact hi
  | succ j hij ih =>
      have hlast := ih (Nat.le_of_succ_le hj) fun k m hik hkj =>
        hpass k m hik (Nat.lt_succ_of_lt hkj)
      have hm : ms[j]? = some ms[j] := List.getElem?_eq_getElem hj
      rw [upTo_succ hm]
      exact hpass j ms[j] hij (Nat.lt_succ_self j) hm hlast

/-- What holds somewhere in a run and survives the moments that follow holds after the run. -/
theorem after_induction_from {p : Policy} {ms : List Moment} {P : System → Prop} {i : Nat}
    (hi : i ≤ ms.length) (hzero : P (upTo p ms i))
    (hpass : ∀ k m, i ≤ k → ms[k]? = some m → P (upTo p ms k) → P ((upTo p ms k).pass p m)) :
    P (after p ms) := by
  have hlast : P (upTo p ms ms.length) := by
    apply upTo_induction (P := fun _ => P) hi (Nat.le_refl _) hzero
    intro k m hik _ hm hk
    exact hpass k m hik hm hk
  rwa [upTo_length] at hlast

end System

end TxGateway
