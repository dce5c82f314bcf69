import TxGateway.Proofs.Succession
import Mathlib.Tactic.IntervalCases

/-!
# Giving a nonce back

A submission that has failed before its broadcast or was refused, and a poll that has found a
transaction dropped, wait for a turn at the ledger to give the nonce back, and so does the chore of
a dropped submission. Whoever is not dropped in that wait gives the nonce back, and it is pending
again only after it has been handed out once more. Nobody takes the place of a call that is dropped
in that wait: the nonce stays secured and is in nobody's hands, so it is lost.
-/

namespace TxGateway

namespace Call

variable {c : Call} {slot : Nat} {a : Address} {n : Nat}

theorem orderly_of_poll? (hs : c.Sound) {x : Settle} (h : c.poll? slot = some x) : c.Orderly := by
  cases c with
  | giveBack a n => cases h
  | recover stage => cases h
  | _ => exact hs

theorem turn?_of_poll? {o : Watchlist.Observation} (h : c.poll? slot = some (.releasing o)) :
    c.turn? slot .done = some (o.record.account, .giveBack o.record.nonce) := by
  have hsweep : ∀ s : Sweep, s.poll? slot = some (.releasing o) →
      s.turn? slot .done = some (o.record.account, .giveBack o.record.nonce) := by
    intro s hs
    simp only [Sweep.turn?, hs, Option.bind_some]
    rfl
  cases c with
  | settle stage =>
      simp only [poll?] at h
      split at h
      · cases h
        rfl
      · cases h
  | sweep s => exact hsweep s h
  | monitor m =>
      obtain ⟨refresh, reconcile, cleanup, activity⟩ := m
      cases activity with
      | sweeping s => exact hsweep s h
      | _ => cases h
  | _ => cases h

/-- Who gives a nonce back at a turn: a poll that has found its transaction dropped, a submission
that has failed, a chore, or a call for just that. -/
theorem giveBack_cases (h : c.turn? slot .done = some (a, .giveBack n)) :
    (∃ i o, c.poll? i = some (.releasing o) ∧ o.record.account = a ∧ o.record.nonce = n) ∨
      (∃ (request : Request) (e : Failure), request.account = a ∧
        c = .submit ⟨request, .returning n e⟩) ∨
      c = .chore (.releasing a n) ∨ c = .giveBack a n := by
  have hreconcile : ∀ (r : Reconcile) (b : Address),
      (r.turn? .done).map (b, ·) ≠ some (a, .giveBack n) := fun r b => r.turn?_ne b a n .done
  have hobtain : ∀ (o : Obtain) (b : Address) (choice : NonceChoice),
      (o.turn? choice .done).map (b, ·) ≠ some (a, .giveBack n) :=
    fun o b choice => o.turn?_ne b a choice n .done
  have hsettle : ∀ x : Settle, x.turn? .done = some (a, .giveBack n) →
      ∃ o, x = .releasing o ∧ o.record.account = a ∧ o.record.nonce = n := by
    intro x hx
    cases x with
    | releasing o =>
        cases hx
        exact ⟨o, rfl, rfl, rfl⟩
    | _ => cases hx
  have hsweep : ∀ s : Sweep, s.turn? slot .done = some (a, .giveBack n) →
      ∃ i o, s.poll? i = some (.releasing o) ∧ o.record.account = a ∧ o.record.nonce = n := by
    intro s hs
    obtain ⟨x, hpoll, hx⟩ := Option.bind_eq_some_iff.mp hs
    obtain ⟨o, rfl, haccount, hnonce⟩ := hsettle x hx
    exact ⟨slot, o, hpoll, haccount, hnonce⟩
  cases c with
  | reconcile b stage => exact absurd h (hreconcile stage b)
  | obtain b choice stage => exact absurd h (hobtain stage b choice)
  | giveBack b k =>
      cases h
      exact .inr (.inr (.inr rfl))
  | settle stage =>
      obtain ⟨o, rfl, haccount, hnonce⟩ := hsettle stage h
      exact .inl ⟨0, o, rfl, haccount, hnonce⟩
  | submit stage =>
      obtain ⟨request, stage⟩ := stage
      cases stage with
      | refreshing r => exact absurd h (hreconcile r _)
      | obtaining o => exact absurd h (hobtain o _ _)
      | returning k e =>
          cases h
          exact .inr (.inl ⟨request, e, rfl, rfl⟩)
      | _ => cases h
  | recover stage =>
      cases stage with
      | reconciling b r rest => exact absurd h (hreconcile r b)
      | claiming record o rest total => exact absurd h (hobtain o _ _)
      | _ => cases h
  | reconcileAll stage => exact absurd h (hreconcile stage.stage stage.account)
  | sweep s => exact .inl (hsweep s h)
  | monitor m =>
      obtain ⟨refresh, reconcile, cleanup, activity⟩ := m
      cases activity with
      | idle => cases h
      | sweeping s => exact .inl (hsweep s h)
      | reconciling r => exact absurd h (hreconcile r.stage r.account)
  | chore stage =>
      cases stage with
      | releasing b k =>
          cases h
          exact .inr (.inr (.inl rfl))
      | _ => cases h
  | _ => cases h

/-- A call that is to give a nonce back does so at its turn, and waits for it else. -/
theorem giveBack_proceed (hs : c.Sound) (h : c.turn? slot .done = some (a, .giveBack n))
    (p : Policy) (now : Timestamp) (g : Gateway) (i : Nat) {reply : Reply}
    (hr : ∀ crash, reply ≠ .crashed crash) :
    c.turn? i reply = some (a, .giveBack n) ∨
      ∃ d j, (c.proceed p now g i reply).2 = .waiting d ∧
        d.turn? j .done = some (a, .giveBack n) := by
  rcases giveBack_cases h with ⟨j, o, hpoll, rfl, rfl⟩ | ⟨request, e, rfl, rfl⟩ | rfl | rfl
  · rcases releasing_proceed (orderly_of_poll? hs hpoll) hpoll p now g i hr with
      hturn | ⟨d, hd, hpoll'⟩
    · exact .inl hturn
    · exact .inr ⟨d, j, hd, turn?_of_poll? hpoll'⟩
  · cases reply with
    | done => exact .inl rfl
    | crashed crash => exact absurd rfl (hr crash)
    | _ => exact .inr ⟨_, 0, rfl, rfl⟩
  · cases reply with
    | done => exact .inl rfl
    | crashed crash => exact absurd rfl (hr crash)
    | _ => exact .inr ⟨_, 0, rfl, rfl⟩
  · cases reply with
    | crashed crash => exact absurd rfl (hr crash)
    | _ => exact .inl rfl

/-- A call that is to give a nonce back has it in hand, and leaves nothing when it is dropped. -/
theorem held_of_giveBack (ho : c.Orderly) (h : c.turn? slot .done = some (a, .giveBack n)) :
    .nonce a n ∈ c.held ∧ ∀ g, c.abandon g = (g, []) := by
  rcases giveBack_cases h with ⟨j, o, hpoll, rfl, rfl⟩ | ⟨request, e, rfl, rfl⟩ | rfl | rfl
  · refine ⟨mem_held_of_poll? ho hpoll, fun g => ?_⟩
    cases c with
    | submit stage => cases hpoll
    | _ => rfl
  · exact ⟨Multiset.mem_singleton_self _, fun _ => rfl⟩
  · exact ⟨Multiset.mem_singleton_self _, fun _ => rfl⟩
  · exact ho.elim

end Call

namespace System

/-- A call is to give a nonce of an account back, and waits for its turn. -/
def Returning (i : Nat) (a : Address) (n : Nat) (s : System) : Prop :=
  ∃ c slot, s.calls.get? i = some c ∧ c.turn? slot .done = some (a, .giveBack n)

/-- A nonce of an account is given back. -/
def GivesBack (a : Address) (n : Nat) (s : System) (m : Moment) : Prop :=
  s.turn? m = some (a, .giveBack n)

/-- A call that is to give a nonce of an account back is dropped while it waits for its turn. -/
def DropsNonce (p : Policy) (i : Nat) (a : Address) (n : Nat) (s : System) (m : Moment) : Prop :=
  Returning i a n s ∧ Drops p i s m

section

variable {p : Policy} {s : System} {m : Moment} {ms : List Moment} {i j k n : Nat} {a : Address}

/-- Who waits in an orderly run: a submission that gives up, a poll that has found its transaction
dropped, and the chore of a dropped submission. -/
theorem returning_iff (ho : s.Orderly) :
    Returning i a n s ↔
      GivingUp i a n s ∨ (∃ slot, s.Holds a n (.poll i slot)) ∨ s.Holds a n (.chore i) := by
  constructor
  · rintro ⟨c, slot, hget, hturn⟩
    rcases Call.giveBack_cases hturn with
      ⟨j, o, hpoll, rfl, rfl⟩ | ⟨request, e, rfl, rfl⟩ | rfl | rfl
    · exact .inr (.inl ⟨j, c, o, hget, hpoll, rfl, rfl⟩)
    · exact .inl ⟨request, e, rfl, hget⟩
    · exact .inr (.inr hget)
    · exact (ho.each i _ hget).elim
  · rintro (⟨request, e, rfl, hget⟩ | ⟨slot, c, o, hget, hpoll, rfl, rfl⟩ | hget)
    · exact ⟨_, 0, hget, rfl⟩
    · exact ⟨c, slot, hget, Call.turn?_of_poll? hpoll⟩
    · exact ⟨_, 0, hget, rfl⟩

/-- The wait ends by the nonce being given back or by the call being dropped. -/
theorem Returning.pass (h : Returning i a n s) (hs : s.CallsAre Call.Sound) (p : Policy)
    (m : Moment) :
    Returning i a n (s.pass p m) ∨ GivesBack a n s m ∨ DropsNonce p i a n s m := by
  have hwaits := h
  obtain ⟨c, slot, hget, hturn⟩ := h
  rcases get?_pass_cases hget (hs.lt_opened i c hget) p m with
    ⟨hdrops, -⟩ | hstays | ⟨slot', r, -, hcrash, hmoment, hnext⟩
  · exact .inr (.inr ⟨hwaits, hdrops⟩)
  · exact .inl ⟨c, slot, hstays, hturn⟩
  · rcases Call.giveBack_proceed (hs.each i c hget) hturn p m.now s.gateway slot' hcrash with
      hback | ⟨d, j, hd, hturn'⟩
    · exact .inr (.inl (hmoment.trans hback))
    · rw [hd] at hnext
      exact .inl ⟨d, j, hnext, hturn'⟩

/-- In a run the wait lasts until the nonce is given back or the call is dropped. -/
theorem Returning.later (h : Returning i a n (upTo p ms j)) (hjk : j ≤ k) (hk : k ≤ ms.length) :
    Returning i a n (upTo p ms k) ∨ (∃ l, j ≤ l ∧ l < k ∧ At p ms l (GivesBack a n)) ∨
      ∃ l, j ≤ l ∧ l < k ∧ At p ms l (DropsNonce p i a n) := by
  apply upTo_induction (P := fun k s => Returning i a n s ∨
    (∃ l, j ≤ l ∧ l < k ∧ At p ms l (GivesBack a n)) ∨
      ∃ l, j ≤ l ∧ l < k ∧ At p ms l (DropsNonce p i a n)) hjk hk (.inl h)
  rintro k m hjk - hm (hwaits | ⟨l, hjl, hlk, hback⟩ | ⟨l, hjl, hlk, hdrop⟩)
  · rcases hwaits.pass (sound_after p _) p m with hstill | hback | hdrop
    · exact .inl hstill
    · exact .inr (.inl ⟨k, hjk, Nat.lt_succ_self k, m, hm, hback⟩)
    · exact .inr (.inr ⟨k, hjk, Nat.lt_succ_self k, m, hm, hdrop⟩)
  · exact .inr (.inl ⟨l, hjl, Nat.lt_succ_of_lt hlk, hback⟩)
  · exact .inr (.inr ⟨l, hjl, Nat.lt_succ_of_lt hlk, hdrop⟩)

/-- A nonce that is pending after it has been given back has been handed out in between. -/
theorem handsOut_of_pending (hback : At p ms j (GivesBack a n)) (hjk : j < k) (hk : k ≤ ms.length)
    (hn : n ∈ (upTo p ms k).gateway.pendingNonces a) :
    ∃ l, j < l ∧ l < k ∧ At p ms l (HandsOut a n) := by
  obtain ⟨mj, hmj, hback⟩ := hback
  revert hn
  apply upTo_induction (P := fun k s => n ∈ s.gateway.pendingNonces a →
    ∃ l, j < l ∧ l < k ∧ At p ms l (HandsOut a n)) hjk hk
  · intro hn
    rw [upTo_succ hmj] at hn
    rcases pending_pass hn with ⟨-, hnot⟩ | ⟨choice, hturn, -⟩
    · exact absurd hback hnot
    · cases hback.symm.trans hturn
  · intro k m hjk _ hm ih hn
    rcases pending_pass hn with ⟨hwas, -⟩ | hands
    · obtain ⟨l, hjl, hlk, hl⟩ := ih hwas
      exact ⟨l, hjl, Nat.lt_succ_of_lt hlk, hl⟩
    · exact ⟨k, hjk, Nat.lt_succ_self k, m, hm, hands⟩

theorem Drops.turn?_eq (h : Drops p i s m) {c : Call} (hget : s.calls.get? i = some c)
    (hc : c.Orderly) : s.turn? m = none := by
  obtain ⟨now, what⟩ := m
  rcases h with rfl | ⟨slot, r, d, g, crash, rfl, hd, hcrash⟩
  · rfl
  · obtain rfl := Option.some.inj (hget.symm.trans hd)
    have hstep := Call.proceeds_resume p now s.gateway c hc slot r
    rw [hcrash] at hstep
    simp only [turn?, hget, Option.bind_some]
    exact hstep.2

/-- A nonce is in nobody's hands once the call that was to give it back has been dropped. -/
theorem DropsNonce.locked (h : DropsNonce p i a n s m) (hc : s.Coupled a) (ho : s.Orderly)
    (hk : (s.gateway.ledger a).Kept) : Locked a n (s.pass p m) := by
  obtain ⟨⟨c, slot, hget, hturn⟩, hdrops⟩ := h
  have horderly := ho.each i c hget
  obtain ⟨hheld, hnothing⟩ := Call.held_of_giveBack horderly hturn
  apply hc.locked_pass hk (mem_inHand hget hheld) (hdrops.turn?_eq hget horderly)
  -- no chore takes the place of the call, so what it had in hand is gone
  have hpass : s.pass p m = { s with calls := s.calls.erase i } := by
    rw [hdrops.pass_eq hget horderly]
    simp [abandon, hget, hnothing, enrollChores]
  obtain ⟨rest, hall, -, herase⟩ := Table.exists_rest Call.held hget
  have hleft : (s.pass p m).held = rest := by
    rw [hpass]
    exact herase
  rw [inHand_eq, inHand_eq, hleft, hpass, held, hall, ← Multiset.cons_add]
  apply add_le_add_left
  rw [← Multiset.singleton_add]
  exact add_le_add_left (Multiset.singleton_le.mpr hheld) rest

/-- In every run a call that waits to give a nonce back goes on to wait, or gives it back, unless it
is dropped there: if the nonce is pending later and the call does not wait any more, the nonce has
been handed out again after it was given back, or the call has been dropped in its wait. In a
regular run a nonce that is lost in that way never gets into anybody's hands again: it cannot be
handed out, and nobody is to give it back. -/
theorem given_back_unless_dropped (p : Policy) (ms : List Moment) (i : Nat) (a : Address)
    (n : Nat) :
    (∀ j k, j ≤ k → k ≤ ms.length → Returning i a n (upTo p ms j) →
      n ∈ (upTo p ms k).gateway.pendingNonces a →
      Returning i a n (upTo p ms k) ∨ (∃ l, j ≤ l ∧ l < k ∧ At p ms l (DropsNonce p i a n)) ∨
        ∃ b l, j ≤ b ∧ b < l ∧ l < k ∧ At p ms b (GivesBack a n) ∧ At p ms l (HandsOut a n)) ∧
    (IsRegular p ms a → ∀ l k, l < k → k ≤ ms.length → At p ms l (DropsNonce p i a n) →
      Locked a n (upTo p ms k)) := by
  constructor
  · intro j k hjk hk hwaits hn
    rcases hwaits.later hjk hk with hstill | ⟨b, hjb, hbk, hback⟩ | hdrop
    · exact .inl hstill
    · obtain ⟨l, hbl, hlk, hl⟩ := handsOut_of_pending hback hbk hk hn
      exact .inr (.inr ⟨b, l, hjb, hbl, hlk, hback, hl⟩)
    · exact .inr (.inl hdrop)
  · rintro hms l k hlk hk ⟨m, hm, hdrop⟩
    have hlost := hdrop.locked (hms.coupled l) (hms.orderly l) (hms.kept l)
    rw [← upTo_succ hm] at hlost
    exact hlost.later hms hlk hk

end

/-- A run in which a refused submission is dropped while it waits to give its nonce back. -/
def cutShortRun (a : Address) : List Moment := (refusalRun a).take 8 ++ [⟨⟨0⟩, .event (.abandon 0)⟩]

/-- A run in which a poll that has found its transaction dropped is dropped itself while it waits to
give the nonce back. -/
def cutShortPollRun (a : Address) (hash : TxHash) : List Moment :=
  (resubmissionRun a hash).take 12 ++ [⟨⟨601000000000⟩, .event (.abandon 1)⟩]

/-- A run in which a poll finds its transaction dropped and gives the nonce back, the store does not
take the outcome, and a recovery reserves the nonce for the record that the store still holds. -/
def reservedAgainRun (a : Address) (hash : TxHash) : List Moment :=
  let recovery : List Event := [.reply 1 0 (.failed (.database .closed)), .start (.recover []),
    .reply 2 0 (.accounts [a]), .reply 2 0 (.count 5), .reply 2 0 .done,
    .reply 2 0 (.records [.fresh ⟨0⟩ ⟨⟨0⟩, a, 5, hash⟩]), .reply 2 0 .done]
  (resubmissionRun a hash).take 14 ++ recovery.map fun e => ⟨⟨601000000000⟩, .event e⟩

/-- The nonce of a refused submission is pending again when the next submission has been given it,
and the nonce of a refused submission that is dropped in its wait is lost. -/
theorem five_lost_or_given_back :
    (let ms := refusalRun ⟨0⟩
     Returning 0 ⟨0⟩ 5 (upTo {} ms 8) ∧ 5 ∈ (upTo {} ms 12).gateway.pendingNonces ⟨0⟩ ∧
       (Returning 0 ⟨0⟩ 5 (upTo {} ms 12) ∨
         (∃ l, 8 ≤ l ∧ l < 12 ∧ At {} ms l (DropsNonce {} 0 ⟨0⟩ 5)) ∨
         ∃ b l, 8 ≤ b ∧ b < l ∧ l < 12 ∧ At {} ms b (GivesBack ⟨0⟩ 5) ∧
           At {} ms l (HandsOut ⟨0⟩ 5))) ∧
    (let ms := cutShortRun ⟨0⟩
     IsRegular {} ms ⟨0⟩ ∧ At {} ms 8 (DropsNonce {} 0 ⟨0⟩ 5) ∧
       Locked ⟨0⟩ 5 (upTo {} ms 9)) := by
  constructor
  · intro ms
    have hwaits : Returning 0 ⟨0⟩ 5 (upTo {} ms 8) := ⟨_, 0, rfl, rfl⟩
    have hpending : 5 ∈ (upTo {} ms 12).gateway.pendingNonces ⟨0⟩ := List.mem_singleton_self 5
    refine ⟨hwaits, hpending, ?_⟩
    exact (given_back_unless_dropped {} ms 0 ⟨0⟩ 5).1 8 12 (by decide) (by decide) hwaits hpending
  · intro ms
    have hregular : IsRegular {} ms ⟨0⟩ := by
      refine ⟨?_, leavesRoom_of_length (by decide +kernel)⟩
      simp [ms, cutShortRun, refusalRun, Moment.IsOrderly, Task.isOrderly]
    have hdrop : At {} ms 8 (DropsNonce {} 0 ⟨0⟩ 5) := ⟨_, rfl, ⟨_, 0, rfl, rfl⟩, .inl rfl⟩
    refine ⟨hregular, hdrop, ?_⟩
    exact (given_back_unless_dropped {} ms 0 ⟨0⟩ 5).2 hregular 8 9 (by decide) (by decide) hdrop

/-- Nothing is handed out when a run ends with a call being dropped. -/
theorem not_handsOut_of_drop {p : Policy} (ms : List Moment) {now : Timestamp} {i l n : Nat}
    {a : Address} (hl : ms.length ≤ l) :
    ¬ At p (ms ++ [⟨now, .event (.abandon i)⟩]) l (HandsOut a n) := by
  rintro ⟨m, hm, choice, hturn, -⟩
  rw [List.getElem?_append_right hl] at hm
  obtain rfl := List.mem_singleton.mp (List.mem_of_getElem? hm)
  cases hturn

/-- A submission and a poll are dropped while they wait to give a nonce back. Afterwards no call and
no chore is left, nothing has been handed out, and the nonce is still pending. And a nonce that a
poll has given back is pending again after a recovery, though no submission has been given it. -/
theorem pending_though_given_up :
    (let ms := cutShortRun ⟨0⟩
     Returning 0 ⟨0⟩ 5 (upTo {} ms 8) ∧ (after {} ms).calls.entries.isEmpty = true ∧
       (after {} ms).gateway.pendingNonces ⟨0⟩ = [5] ∧ ∀ l, 8 ≤ l → ¬ At {} ms l (HandsOut ⟨0⟩ 5)) ∧
    (let ms := cutShortPollRun ⟨0⟩ ⟨7⟩
     Returning 1 ⟨0⟩ 5 (upTo {} ms 12) ∧ (after {} ms).calls.entries.isEmpty = true ∧
       (after {} ms).gateway.pendingNonces ⟨0⟩ = [5] ∧
       ((after {} ms).gateway.watchlist.lookup? ⟨7⟩).map (·.status) = some .dropped ∧
       ∀ l, 12 ≤ l → ¬ At {} ms l (HandsOut ⟨0⟩ 5)) ∧
    (let ms := reservedAgainRun ⟨0⟩ ⟨7⟩
     Returning 1 ⟨0⟩ 5 (upTo {} ms 12) ∧ At {} ms 12 (GivesBack ⟨0⟩ 5) ∧
       (after {} ms).calls.entries.isEmpty = true ∧
       (after {} ms).gateway.pendingNonces ⟨0⟩ = [5] ∧
       ∀ l, 12 ≤ l → ∀ c, ¬ At {} ms l (Given c ⟨0⟩ 5)) := by
  refine ⟨⟨⟨_, 0, rfl, rfl⟩, rfl, rfl, ?_⟩, ⟨⟨_, 0, rfl, rfl⟩, rfl, rfl, rfl, ?_⟩,
    ⟨⟨_, 0, rfl, rfl⟩, ⟨_, rfl, rfl⟩, rfl, rfl, ?_⟩⟩
  · exact fun l hl => not_handsOut_of_drop ((refusalRun ⟨0⟩).take 8) hl
  · exact fun l hl => not_handsOut_of_drop ((resubmissionRun ⟨0⟩ ⟨7⟩).take 12) hl
  · rintro l hl c ⟨m, hm, request, slot, -, hwhat, hget, -⟩
    have hlt : l < 21 := (List.getElem?_eq_some_iff.mp hm).1
    interval_cases l <;> cases hm <;> cases hwhat <;> cases hget

end System

end TxGateway
