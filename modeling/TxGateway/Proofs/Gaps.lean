import TxGateway.Proofs.BookRefinement
import TxGateway.Proofs.LoneCall

/-!
# Gaps are filled before a ledger grows

The gaps of a ledger are the nonces from the confirmed count up to the next nonce that are not
pending. Whoever asks for nonces one after another is given all of them, from the lowest, before the
next nonce.
-/

namespace TxGateway

namespace Ledger

/-- The nonces below the next one that are neither confirmed nor pending, ascending. -/
def gaps (l : Ledger) : List Nat :=
  (List.range' l.confirmed (l.next - l.confirmed)).filter (· ∉ l.pending)

variable {l : Ledger} {n : Nat} {rest : List Nat}

theorem mem_gaps : n ∈ l.gaps ↔ l.confirmed ≤ n ∧ n < l.next ∧ n ∉ l.pending := by
  have hrange : n ∈ List.range' l.confirmed (l.next - l.confirmed) ↔
      l.confirmed ≤ n ∧ n < l.next := by
    rw [List.mem_range'_1]
    omega
  simp only [gaps, List.mem_filter, hrange, decide_eq_true_eq, and_assoc]

theorem pairwise_gaps (l : Ledger) : l.gaps.Pairwise (· < ·) :=
  List.Pairwise.filter _ List.pairwise_lt_range'

/-- What would be handed out is the least number that is neither confirmed nor pending if that lies
below the next nonce, and else the next nonce. -/
theorem Ordered.upcoming_cases (h : l.Ordered) : ∃ m,
    IsLeast {k | l.confirmed ≤ k ∧ k ∉ l.pending} m ∧
      l.upcoming = if m < l.next then m else l.next := by
  refine ⟨_, firstFree_isLeast l.confirmed l.pending h.ascending, ?_⟩
  simp only [upcoming, lowestHole?]
  split <;> rfl

/-- The lowest gap is handed out next. -/
theorem Ordered.upcoming_of_gaps (h : l.Ordered) (hgaps : l.gaps = n :: rest) :
    l.upcoming = n := by
  obtain ⟨m, hleast, hupcoming⟩ := h.upcoming_cases
  obtain ⟨hfloor, hlt, hfree⟩ := mem_gaps.mp (hgaps ▸ List.mem_cons_self : n ∈ l.gaps)
  have hmn : m ≤ n := hleast.2 ⟨hfloor, hfree⟩
  have hmem : m ∈ n :: rest :=
    hgaps ▸ mem_gaps.mpr ⟨hleast.1.1, hmn.trans_lt hlt, hleast.1.2⟩
  rw [hupcoming, if_pos (hmn.trans_lt hlt)]
  rcases List.mem_cons.mp hmem with heq | hrest
  · exact heq
  · have hpair := l.pairwise_gaps
    rw [hgaps] at hpair
    exact absurd ((List.pairwise_cons.mp hpair).1 m hrest) (not_lt.mpr hmn)

/-- Handing the lowest gap out leaves the others. -/
theorem gaps_issue (hgaps : l.gaps = n :: rest) :
    (l.issue n).gaps = rest ∧ (l.issue n).next = l.next := by
  obtain ⟨-, hlt, -⟩ := mem_gaps.mp (hgaps ▸ List.mem_cons_self : n ∈ l.gaps)
  have hnext : (l.issue n).next = l.next := by
    simp only [issue, if_neg (not_le.mpr hlt)]
  refine ⟨?_, hnext⟩
  have hleft : (l.issue n).gaps = l.gaps.filter (· ≠ n) := by
    rw [gaps, hnext, confirmed_issue, gaps, List.filter_filter]
    apply List.filter_congr
    intro m _
    simp
  have hpair := l.pairwise_gaps
  rw [hgaps] at hpair hleft
  have hne : ∀ m ∈ rest, m ≠ n := fun m hm =>
    (Nat.ne_of_lt ((List.pairwise_cons.mp hpair).1 m hm)).symm
  rw [hleft, List.filter_cons_of_neg (by simp), List.filter_eq_self.mpr (by simpa using hne)]

/-- Without gaps the ledger grows. -/
theorem Ordered.upcoming_of_no_gaps (h : l.Ordered) (hgaps : l.gaps = []) :
    l.upcoming = l.next := by
  obtain ⟨m, hleast, hupcoming⟩ := h.upcoming_cases
  rw [hupcoming, if_neg]
  intro hlt
  have hmem : m ∈ l.gaps := mem_gaps.mpr ⟨hleast.1.1, hlt, hleast.1.2⟩
  rw [hgaps] at hmem
  cases hmem

end Ledger

namespace System

/-- Asks for nonces of an account one after another; gives the answers. -/
def allocate (p : Policy) (a : Address) (s : System) :
    List Timestamp → List (Option (Ending Outcome))
  | [] => []
  | now :: times =>
    let r := s.carryOut p now (.obtain a .next) [.done]
    r.2 :: r.1.allocate p a times

variable {s : System} {a : Address} {l : Ledger}

/-- Asking an account that has been brought up to date for a nonce gives the upcoming one. -/
theorem carryOut_next (p : Policy) (now : Timestamp) (hl : s.gateway.ledger a = l)
    (hs : l.seeded = true) :
    let r := s.carryOut p now (.obtain a .next) [.done]
    r.1.gateway.ledger a = l.issue l.upcoming ∧ r.2 = some (.ofValue (.nonce l.upcoming)) := by
  subst hl
  intro r
  have hgot : s.gateway.obtain a .next =
      ((s.gateway.obtain a .next).1, some (.ok (s.gateway.ledger a).upcoming)) := by
    rw [Gateway.obtain, hs]
    simp only [Bool.not_true, Bool.false_eq_true, if_false, Ledger.handOut_eq]
  obtain ⟨hgateway, hanswer⟩ := s.carryOut_obtain p now a .next hs hgot
  refine ⟨?_, hanswer⟩
  rw [show r.1.gateway = _ from hgateway, s.gateway.ledger_obtain ⟨0⟩]
  simp [Turn.apply, hs, Ledger.handOut_eq]

/-- All gaps are handed out first, from the lowest, and then the next nonce. -/
theorem allocate_gaps (p : Policy) (hl : s.gateway.ledger a = l) (ho : l.Ordered)
    (hs : l.seeded = true) (times : List Timestamp) :
    (s.allocate p a times).take (l.gaps.length + 1) =
      ((l.gaps ++ [l.next]).take times.length).map fun n => some (.ofValue (.nonce n)) := by
  induction times generalizing s l with
  | nil => simp [allocate]
  | cons now times ih =>
      obtain ⟨hledger, hanswer⟩ := carryOut_next p now hl hs
      simp only [allocate, hanswer]
      generalize (s.carryOut p now (.obtain a .next) [.done]).1 = t at hledger
      cases hgaps : l.gaps with
      | nil => simp [ho.upcoming_of_no_gaps hgaps]
      | cons n rest =>
          rw [ho.upcoming_of_gaps hgaps] at hledger ⊢
          obtain ⟨hrest, hnext⟩ := Ledger.gaps_issue hgaps
          have hleft := ih hledger (ho.issue hs n) hs
          rw [hrest, hnext] at hleft
          simp only [List.length_cons, List.take_succ_cons, List.cons_append, List.map_cons, hleft]

end System

end TxGateway
