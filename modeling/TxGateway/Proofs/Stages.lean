import TxGateway.Proofs.Dropping
import TxGateway.Proofs.HandOut

/-!
# A submission goes forward only

A submission gets a nonce, then calls for its broadcast, then waits for the store or gives its nonce
back, and never goes back to what it has done. So where it stands tells what it has never done: one
without a nonce has never been given one, and one that has not come to its broadcast has sent
nothing.
-/

namespace TxGateway

/-- How far a submission has come: it has no nonce, it has one and has sent nothing, it waits for
its broadcast, or it is past that. -/
def Submit.Stage.rank : Submit.Stage → Nat
  | aging | refreshing _ | noting | obtaining _ => 0
  | pricing _ | signing .. => 1
  | broadcasting .. => 2
  | returning .. | holding .. | saving .. => 3

theorem Submit.Stage.rank_le (stage : Submit.Stage) : stage.rank ≤ 3 := by
  cases stage <;> simp [rank]

/-- A submission goes forward only. -/
theorem Submit.rank_resume {c d : Submit} {p : Policy} {now : Timestamp} {g : Gateway}
    {reply : Reply} (h : (c.resume p now g reply).2 = .waiting d) :
    c.stage.rank ≤ d.stage.rank := by
  obtain ⟨request, stage⟩ := c
  cases stage with
  | aging => exact Nat.zero_le _
  | refreshing r => exact Nat.zero_le _
  | noting => exact Nat.zero_le _
  | obtaining o => exact Nat.zero_le _
  | pricing n =>
      cases reply with
      | price price =>
          simp only [resume] at h
          split at h <;> cases h
          exact le_rfl
      | _ =>
          cases h
          simp [Stage.rank]
  | signing n price =>
      cases reply with
      | _ =>
          cases h
          simp [Stage.rank]
  | broadcasting sent raw =>
      cases reply with
      | accepted hash =>
          simp only [resume, accept] at h
          split at h <;> cases h
          simp [Stage.rank]
      | unreachable detail =>
          simp only [resume, hold] at h
          split at h <;> cases h
          simp [Stage.rank]
      | silence =>
          simp only [resume, hold] at h
          split at h <;> cases h
          simp [Stage.rank]
      | _ =>
          cases h
          simp [Stage.rank]
  | returning n e =>
      cases reply with
      | done => cases h
      | _ =>
          cases h
          exact le_rfl
  | holding r e =>
      cases reply with
      | done => cases h
      | failed e => cases h
      | _ =>
          cases h
          exact le_rfl
  | saving submission r =>
      cases reply with
      | done => cases h
      | failed e => cases h
      | _ =>
          cases h
          exact le_rfl

namespace System

variable {p : Policy} {s : System} {m : Moment} {c n : Nat} {a : Address} {sent : Record}

/-- How far a submission has come; what has ended, or was no submission, is past everything. -/
def rank (c : Nat) (s : System) : Nat :=
  match s.calls.get? c with
  | some (.submit stage) => stage.stage.rank
  | _ => 4

theorem rank_le (c : Nat) (s : System) : rank c s ≤ 4 := by
  simp only [rank]
  split
  · exact (Submit.Stage.rank_le _).trans (by decide)
  · exact le_rfl

theorem rank_of_get? {stage : Submit} (h : s.calls.get? c = some (.submit stage)) :
    rank c s = stage.stage.rank := by
  simp only [rank, h]

/-- A submission in progress was in progress before, and it has gone on with an answer if it has
gone on at all. -/
theorem submit_of_pass {stage : Submit} (hc : c < s.opened)
    (h : (s.pass p m).calls.get? c = some (.submit stage)) :
    ∃ before, s.calls.get? c = some (.submit before) ∧
      (stage = before ∨ ∃ r, (before.resume p m.now s.gateway r).2 = .waiting stage) := by
  by_cases hm : m.call? = some c
  · cases hget : s.calls.get? c with
    | none =>
        rw [get?_pass_of_none hc p m hget] at h
        cases h
    | some d =>
        obtain ⟨now, what⟩ := m
        cases what with
        | event e =>
            cases e with
            | start t => cases hm
            | abandon _ =>
                cases hm
                have hgone := get?_abandon hc c
                rw [if_pos rfl] at hgone
                cases h.symm.trans hgone
            | reply _ slot r =>
                cases hm
                have hnext := get?_reply hc p now c slot r
                rw [if_pos rfl, hget, Option.bind_some] at hnext
                have hnext := hnext.symm.trans h
                split at hnext
                · rename_i d' hd
                  cases hnext
                  obtain ⟨before, rfl, hstage⟩ := Call.submit_of_resume hd
                  refine ⟨before, rfl, ?_⟩
                  rcases hstage with heq | hresume
                  · exact .inl heq
                  · exact .inr ⟨r, hresume⟩
                · cases hnext
        | evict olderThan => cases hm
        | close => cases hm
  · rw [get?_pass_of_ne hc p hm] at h
    exact ⟨stage, h, .inl rfl⟩

/-- A submission goes forward only. -/
theorem rank_pass (hc : c < s.opened) : rank c s ≤ rank c (s.pass p m) := by
  by_cases hsubmit : ∃ stage, (s.pass p m).calls.get? c = some (.submit stage)
  · obtain ⟨stage, hafter⟩ := hsubmit
    obtain ⟨before, hget, hstage⟩ := submit_of_pass hc hafter
    rw [rank_of_get? hafter, rank_of_get? hget]
    rcases hstage with rfl | ⟨r, hresume⟩
    · exact le_rfl
    · exact Submit.rank_resume hresume
  · have hlast : rank c (s.pass p m) = 4 := by
      simp only [rank]
      split
      · rename_i stage hget
        exact absurd ⟨stage, hget⟩ hsubmit
      · rfl
    rw [hlast]
    exact rank_le c s

section

variable {ms : List Moment} {j k : Nat}

theorem rank_upTo (hjk : j ≤ k) (hk : k ≤ ms.length) (hc : c < (upTo p ms j).opened) :
    rank c (upTo p ms j) ≤ rank c (upTo p ms k) := by
  have hall : c < (upTo p ms k).opened ∧ rank c (upTo p ms j) ≤ rank c (upTo p ms k) := by
    apply upTo_induction (P := fun _ s => c < s.opened ∧ rank c (upTo p ms j) ≤ rank c s) hjk hk
    · exact ⟨hc, le_rfl⟩
    · intro i m _ _ _ ⟨hopened, hle⟩
      exact ⟨hopened.trans_le (opened_le_pass _ p m), hle.trans (rank_pass hopened)⟩
  exact hall.2

theorem Unsent.rank_eq (h : Unsent c a n s) : rank c s = 1 := by
  obtain ⟨request, -, hget | ⟨price, hget⟩⟩ := h
  · exact rank_of_get? hget
  · exact rank_of_get? hget

theorem OnItsWay.rank_eq (h : OnItsWay c sent s) : rank c s = 2 := by
  obtain ⟨request, raw, hget⟩ := h
  exact rank_of_get? hget

/-- A submission without a nonce has never been given one. -/
theorem not_given_of_rank (hrank : rank c (upTo p ms k) = 0) (hk : k ≤ ms.length) (hjk : j < k) :
    ¬ At p ms j (Given c a n) := by
  rintro ⟨m, hm, hgiven⟩
  have hopened : c < (upTo p ms j).opened := by
    obtain ⟨request, slot, -, -, hget, -⟩ := hgiven
    exact (sound_after p _).lt_opened c _ hget
  have hunsent := hgiven.unsent (p := p) hopened
  rw [← upTo_succ hm] at hunsent
  have hle := rank_upTo (c := c) hjk hk (by
    rw [upTo_succ hm]
    exact hopened.trans_le (opened_le_pass _ p m))
  rw [hunsent.rank_eq, hrank] at hle
  cases hle

/-- A submission that has not come to its broadcast has never called for it. -/
theorem not_onItsWay_of_rank (hrank : rank c (upTo p ms k) < 2) (hk : k ≤ ms.length)
    (hjk : j ≤ k) : ¬ OnItsWay c sent (upTo p ms j) := by
  intro hway
  have hopened : c < (upTo p ms j).opened := by
    obtain ⟨request, raw, hget⟩ := hway
    exact (sound_after p _).lt_opened c _ hget
  have hle := rank_upTo (c := c) hjk hk hopened
  rw [hway.rank_eq] at hle
  exact absurd hrank (Nat.not_lt.mpr hle)

end

end System

end TxGateway
