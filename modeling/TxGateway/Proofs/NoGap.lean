import TxGateway.Proofs.Gaps
import TxGateway.Proofs.Succession
import Mathlib.Tactic.IntervalCases

/-!
# No permanent gap

A nonce that stayed pending with nothing behind it would block every higher nonce of its account for
ever. In a tidy run with a reliable signer and node this does not happen: when everything has come
to rest, each pending nonce is that of a transaction that was sent and put on the watchlist, and
that is live or has been mined. All other nonces below the next one are handed out again before it.
All this holds also after the greatest nonce has been handed out and the next one is 0 again.
-/

namespace TxGateway.System

variable {p : Policy} {ms : List Moment}

/-- Why a nonce is pending after a run. -/
inductive Accounted (p : Policy) (ms : List Moment) (a : Address) (n : Nat) : Prop
  /-- Its transaction was sent and put on the watchlist, and its outcome is open. -/
  | live {i c : Nat} {r : Record} (account_eq : r.account = a) (nonce_eq : r.nonce = n)
      (tracks : At p ms i (Tracks p c r)) (live : Live r (after p ms))
  /-- Its transaction was sent and put on the watchlist, and a poll has found it mined, with
  whatever success. -/
  | mined {i k c : Nat} {r : Record} {status : Status} {receipt : Receipt} (hik : i < k)
      (account_eq : r.account = a) (nonce_eq : r.nonce = n) (tracks : At p ms i (Tracks p c r))
      (settles : At p ms k (Settles p r status)) (mined : status.receipt? = some receipt)

/-- Everything has come to rest. -/
structure Quiet (s : System) : Prop where
  /-- No submission is in progress. -/
  no_submission : ∀ i stage, s.calls.get? i ≠ some (.submit stage)
  /-- No chore is left. -/
  no_chore : ∀ i stage, s.calls.get? i ≠ some (.chore stage)
  /-- No poll has still to give a nonce back. -/
  no_release : ∀ i c, s.calls.get? i = some c → ∀ slot o, c.poll? slot ≠ some (.releasing o)

/-- In a quiet system no call holds a nonce. -/
theorem Quiet.not_holds {s : System} (h : s.Quiet) {a : Address} {n i : Nat} {x : Holder}
    (hi : x.call? = some i) : ¬ s.Holds a n x := by
  intro hx
  cases x with
  | submission c =>
      obtain ⟨stage, hget, -⟩ := hx
      exact h.no_submission c stage hget
  | transaction k => cases hi
  | poll j slot =>
      obtain ⟨c, o, hget, hpoll, -⟩ := hx
      exact h.no_release j c hget slot o hpoll
  | chore j => exact h.no_chore j _ hx

/-- A final status is one of a mined transaction unless it is that of a dropped one. -/
theorem exists_receipt {status : Status} (hfinal : status.isFinal = true)
    (hdropped : status ≠ .dropped) : ∃ receipt, status.receipt? = some receipt := by
  cases status with
  | pending => cases hfinal
  | dropped => exact absurd rfl hdropped
  | confirmed receipt => exact ⟨receipt, rfl⟩
  | failed receipt => exact ⟨receipt, rfl⟩
  | outOfGas receipt => exact ⟨receipt, rfl⟩

/-- A pending nonce that no call holds is accounted for. -/
theorem accounted_or_held (hms : IsTidyRun p ms) (hrel : Reliable p ms) {a : Address} {n : Nat}
    (hn : n ∈ (after p ms).gateway.pendingNonces a) :
    Accounted p ms a n ∨ ∃ x i, x.call? = some i ∧ (after p ms).Holds a n x := by
  rw [← upTo_length] at hn ⊢
  rcases holds_or_mined hms hrel le_rfl hn with
    ⟨x, hx⟩ | ⟨i, k, c, r, status, hik, -, haccount, hnonce, htracks, hsettles, hdropped⟩
  · cases hi : x.call? with
    | some i => exact .inr ⟨x, i, hi, hx⟩
    | none =>
        cases x with
        | transaction h =>
            obtain ⟨r, hr, rfl, rfl, hpending⟩ := hx
            obtain ⟨rfl, i, -, c, r₀, htracks, hsub⟩ := tracked_of_lookup? hms le_rfl hr
            have hfields := hsub
            simp only [Record.submission, Submission.mk.injEq] at hfields
            refine .inl (.live hfields.2.1 hfields.2.2.1 htracks ⟨r, ?_, hsub.symm, hpending⟩)
            rw [hfields.2.2.2, ← upTo_length]
            exact hr
        | _ => cases hi
  · obtain ⟨receipt, hreceipt⟩ : ∃ receipt, status.receipt? = some receipt := by
      obtain ⟨m, -, -, hfinal, -⟩ := hsettles
      exact exists_receipt hfinal hdropped
    exact .inl (.mined hik haccount hnonce htracks hsettles hreceipt)

/-- A run in which a transaction is sent and watched, and a second submission is abandoned while it
waits for a price; its chore gives the nonce back. -/
def settledRun (a : Address) (hash : TxHash) : List Moment :=
  let request : Request := { account := a, payload := ⟨a, [], 0, 21000⟩ }
  [.start (.submit request), .reply 0 0 (.count 5), .reply 0 0 .done, .reply 0 0 .done,
    .reply 0 0 .done, .reply 0 0 (.price (.legacy 1)), .reply 0 0 (.signed []),
    .reply 0 0 (.accepted hash), .reply 0 0 .done, .start (.submit request), .reply 1 0 .done,
    .reply 1 0 .done, .abandon 1, .reply 2 0 .done, .reply 2 0 .done].map fun e => ⟨⟨0⟩, .event e⟩

/-- Nothing in that run is out of order. -/
theorem isTidyRun_settledRun : IsTidyRun {} (settledRun ⟨0⟩ (TxHash.ofRaw [])) := by
  intro k m hm
  have hk : k < 15 := (List.getElem?_eq_some_iff.mp hm).1
  by_cases habandon : k = 12
  · subst habandon
    cases hm
    have hget : (upTo {} (settledRun ⟨0⟩ (TxHash.ofRaw [])) 12).calls.get? 1 = some (.submit
        ⟨{ account := ⟨0⟩, payload := ⟨⟨0⟩, [], 0, 21000⟩ }, .pricing 6⟩) := by
      decide +kernel
    intro c hc
    rw [hget] at hc
    cases hc
    rintro ⟨slot, a, hmem⟩
    cases List.mem_singleton.mp hmem
  · interval_cases k
    all_goals first
      | exact absurd rfl habandon
      | cases hm
        trivial

/-- Its only signature is that of no bytes. -/
theorem signs_settledRun {hash : TxHash} {i c : Nat} {raw : Bytes}
    (h : At {} (settledRun ⟨0⟩ hash) i (Signs c raw)) : i = 6 ∧ raw = [] := by
  obtain ⟨m, hm, request, n, price, slot, -, hwhat⟩ := h
  have hi : i < 15 := (List.getElem?_eq_some_iff.mp hm).1
  interval_cases i <;> cases hm <;> cases hwhat
  exact ⟨rfl, rfl⟩

theorem onItsWay_settledRun (hash : TxHash) :
    (upTo {} (settledRun ⟨0⟩ hash) 7).calls.get? 0 = some (.submit
      ⟨{ account := ⟨0⟩, payload := ⟨⟨0⟩, [], 0, 21000⟩ },
        .broadcasting (.fresh ⟨0⟩ ⟨⟨0⟩, ⟨0⟩, 5, TxHash.ofRaw []⟩) []⟩) := rfl

/-- Its only acceptance is that of no bytes. -/
theorem accepts_settledRun {hash reported : TxHash} {i c : Nat} {raw : Bytes}
    (h : At {} (settledRun ⟨0⟩ hash) i (Accepts c raw reported)) : reported = hash ∧ raw = [] := by
  obtain ⟨m, hm, request, sent, slot, hget, hwhat⟩ := h
  have hi : i < 15 := (List.getElem?_eq_some_iff.mp hm).1
  interval_cases i <;> cases hm <;> cases hwhat
  rw [onItsWay_settledRun] at hget
  cases hget
  exact ⟨rfl, rfl⟩

theorem reliable_settledRun : Reliable {} (settledRun ⟨0⟩ (TxHash.ofRaw [])) where
  signs_once := fun i j c d raw hi hj => by
    rw [(signs_settledRun hi).1, (signs_settledRun hj).1]
  no_collision := fun i j c d raw raw' hi hj _ => by
    rw [(signs_settledRun hi).2, (signs_settledRun hj).2]
  reports_hash := fun i c raw hash h => by
    rw [(accepts_settledRun h).1, (accepts_settledRun h).2]

/-- After that run everything has come to rest. -/
theorem quiet_settledRun : (after {} (settledRun ⟨0⟩ (TxHash.ofRaw []))).Quiet := by
  have hempty : (after {} (settledRun ⟨0⟩ (TxHash.ofRaw []))).calls.entries.isEmpty = true := by
    decide +kernel
  have hnone : ∀ i, (after {} (settledRun ⟨0⟩ (TxHash.ofRaw []))).calls.get? i = none := by
    intro i
    rw [Table.get?, List.isEmpty_iff.mp hempty]
    rfl
  constructor
  · intro i stage hget
    rw [hnone] at hget
    cases hget
  · intro i stage hget
    rw [hnone] at hget
    cases hget
  · intro i c hget
    rw [hnone] at hget
    cases hget

end TxGateway.System
