import TxGateway.Proofs.NoReuse
import Mathlib.Tactic.IntervalCases

/-!
# The order in which nonces are chosen

A nonce that is chosen, and not named by the caller, is the least free one. So at that moment every
nonce up to it is pending or used up, and that stays so while no nonce is given back: neither a
claim far ahead nor a count from the chain opens a hole below it. Hence the next nonce that is
chosen is a greater one, unless the greatest nonce has been claimed and the ledger begins again
at 0.
-/

namespace TxGateway

/-- Every nonce below the least free one is secured. -/
theorem Book.secures_of_lt_free (b : Book) {x : Nat} (hx : x < b.free) : b.Secures x := by
  by_contra hfree
  exact hx.not_ge (b.isLeast_free.2 ((b.not_secures_iff x).mp hfree))

/-- The nonce that a kept ledger chooses is the least free one. -/
theorem Ledger.Kept.free_of_obtain {g : Gateway} {a : Address} {n : Nat}
    (h : (g.ledger a).Kept) (hgot : (g.obtain a .next).2 = some (.ok n)) :
    n = (g.ledger a).book.free := by
  cases hs : (g.ledger a).seeded with
  | false => simp [Gateway.obtain, hs] at hgot
  | true =>
      simpa only [Gateway.obtain, hs, h.handOut_fst, Bool.not_true, Bool.false_eq_true,
        if_false, Option.some.injEq, Except.ok.injEq, eq_comm] using hgot

/-- Bringing a ledger up to date asks for no nonce. -/
theorem Reconcile.turn?_ne_obtain (r : Reconcile) (reply : Reply) (choice : NonceChoice) :
    r.turn? reply ≠ some (.obtain choice) := by
  cases r with
  | asking => cases reply <;> simp [turn?]
  | applying count => cases reply <;> simp [turn?]

/-- A call for a nonce asks the ledger for the nonce it was called for. -/
theorem Obtain.choice_of_turn? {choice asked : NonceChoice} {stage : Obtain} {reply : Reply}
    (h : stage.turn? choice reply = some (.obtain asked)) : asked = choice := by
  cases stage with
  | seeding r => exact absurd h (r.turn?_ne_obtain reply asked)
  | turn =>
      cases reply with
      | done =>
          cases h
          rfl
      | _ => cases h

namespace System

/-- A ledger chooses a nonce for a call that names none. -/
def Allocates (a : Address) (n : Nat) (s : System) (m : Moment) : Prop :=
  s.turn? m = some (a, .obtain .next) ∧ (s.gateway.obtain a .next).2 = some (.ok n)

/-- The nonce that a moment chooses for an account, if it chooses one. -/
def allocated? (a : Address) (s : System) (m : Moment) : Option Nat :=
  if s.turn? m = some (a, .obtain .next) then
    match (s.gateway.obtain a .next).2 with
    | some (.ok n) => some n
    | _ => none
  else none

/-- The nonces that a run chooses for an account, in their order. -/
def allocated (p : Policy) (a : Address) (ms : List Moment) : List Nat :=
  (List.range ms.length).filterMap fun k => ms[k]?.bind (allocated? a (upTo p ms k))

section

variable {p : Policy} {s : System} {m : Moment} {a : Address} {n x : Nat}

theorem allocated?_eq_some : allocated? a s m = some n ↔ Allocates a n s m := by
  simp only [allocated?, Allocates]
  split
  · rename_i hturn
    simp only [hturn, true_and]
    cases hgot : (s.gateway.obtain a .next).2 with
    | none => simp
    | some result => cases result <;> simp
  · rename_i hturn
    simp [hturn]

theorem Allocates.handsOut (h : Allocates a n s m) : HandsOut a n s m := ⟨.next, h.1, h.2⟩

/-- When a nonce has been chosen, every nonce up to it is secured. -/
theorem Allocates.secures_le (h : Allocates a n s m) (hkept : (s.gateway.ledger a).Kept)
    (hx : x ≤ n) : ((s.pass p m).book a).Secures x := by
  rcases Nat.lt_or_eq_of_le hx with hlt | rfl
  · have hbelow : (s.book a).Secures x :=
      (s.book a).secures_of_lt_free (hkept.free_of_obtain h.2 ▸ hlt)
    refine secures_pass hkept hbelow fun hback => ?_
    cases h.1.symm.trans hback.1
  · exact (h.handsOut.secures hkept).2

/-- While no nonce is given back, what is chosen later is greater. -/
theorem LeavesRoom.lt_of_allocates {ms : List Moment} (hroom : LeavesRoom p ms a) {i j l n : Nat}
    (hij : i < j)
    (hl : At p ms i (Allocates a l)) (hn : At p ms j (Allocates a n))
    (hkeep : ∀ k x, i < k → k < j → ¬ At p ms k (TakesBack p a x)) : l < n := by
  obtain ⟨mi, hmi, hi⟩ := hl
  obtain ⟨mj, hmj, hj⟩ := hn
  have hkept := hroom.kept
  have hfirst : ∀ x ≤ l, ((upTo p ms (i + 1)).book a).Secures x := by
    intro x hx
    rw [upTo_succ hmi]
    exact hi.secures_le (hkept i) hx
  have hlast : ∀ x ≤ l, ((upTo p ms j).book a).Secures x :=
    upTo_induction (P := fun _ s => ∀ x ≤ l, (s.book a).Secures x) hij (le_length hmj) hfirst
      fun k m hik hkj hm hs x hx =>
        secures_pass (hkept k) (hs x hx) fun hback => hkeep k x hik hkj ⟨m, hm, hback⟩
  by_contra hle
  exact (hj.handsOut.secures (p := p) (hkept j)).1 (hlast n (not_lt.mp hle))

/-- The nonce that a call for any nonce returns was chosen at that moment. -/
theorem allocates_of_returned {now : Timestamp} {i slot : Nat} {reply : Reply} {stage : Obtain}
    (hcall : s.calls.get? i = some (.obtain a .next stage))
    (hend : (s.step p now (.reply i slot reply)).2.ending = some (.ofValue (.nonce n))) :
    Allocates a n s ⟨now, .event (.reply i slot reply)⟩ := by
  obtain ⟨k, ⟨choice, hturn, hgot⟩, hout⟩ := handsOut_of_returned hcall hend
  cases hout
  have hchoice : stage.turn? .next reply = some (.obtain choice) := by
    cases reply with
    | crashed crash => simp [turn?, hcall, Call.turn?] at hturn
    | _ => simpa [turn?, hcall, Call.turn?, Call.turnOf?] using hturn
  cases Obtain.choice_of_turn? hchoice
  exact ⟨hturn, hgot⟩

end

/-- A run in which an account is told the count 5 and nonce 5 is chosen; then nonce 8 is claimed,
the count 7 comes in, and nonces are chosen again. -/
def gapRun (a : Address) : List Moment :=
  [.start (.obtain a .next), .reply 0 0 .done, .reply 0 0 (.count 5), .reply 0 0 .done,
    .reply 0 0 .done, .start (.obtain a (.named 8)), .reply 1 0 .done, .start (.reconcile a),
    .reply 2 0 (.count 7), .reply 2 0 .done, .start (.expire a), .reply 3 0 .done,
    .start (.obtain a .next), .reply 4 0 .done, .start (.obtain a .next), .reply 5 0 .done].map
      fun e => ⟨⟨0⟩, .event e⟩

example : allocated {} ⟨0⟩ (gapRun ⟨0⟩) = [5, 7, 9] := by decide +kernel

end System

end TxGateway
