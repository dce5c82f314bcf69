import TxGateway.Proofs.HandOut
import TxGateway.Proofs.Index

/-!
# One holder for each nonce

A nonce that has been handed out has a holder: the submission that was given it, then the watched
transaction, or whoever has decided to give it back. In an orderly run no nonce has two holders, and
a nonce with a holder cannot be handed out, as long as the greatest nonce is never pending for the
account. So no transaction that is to be watched ever finds its nonce in use.
-/

namespace TxGateway

/-- Who can hold a nonce. -/
inductive Holder
  /-- A submission, by its number: from the hand-out until its transaction is entered in the
  watchlist, or its nonce has been given back or is left to a chore. -/
  | submission (call : Nat)
  /-- A watched transaction whose outcome is open. -/
  | transaction (hash : TxHash)
  /-- A poll that has found a transaction dropped and has not given the nonce back yet. -/
  | poll (call slot : Nat)
  /-- A chore of an abandoned submission, to give the nonce back. -/
  | chore (call : Nat)
  deriving DecidableEq

/-- The call behind a holder, if it is one. -/
def Holder.call? : Holder → Option Nat
  | submission i | poll i _ | chore i => some i
  | transaction _ => none

/-- The nonce that a submission holds. -/
def Submit.nonce? (c : Submit) : Option Nat :=
  match c.stage with
  | .pricing n | .signing n _ | .returning n _ => some n
  | .broadcasting r _ => some r.nonce
  | _ => none

/-- The poll on behalf of a client that asks the question with a number. -/
def Call.poll? (slot : Nat) : Call → Option Settle
  | settle c => if slot = 0 then some c else none
  | sweep s => s.poll? slot
  | monitor m => match m.activity with
    | .sweeping s => s.poll? slot
    | _ => none
  | _ => none

namespace System

/-- A holder holds a nonce of an account. -/
def Holds (s : System) (a : Address) (n : Nat) : Holder → Prop
  | .submission i => ∃ c : Submit, s.calls.get? i = some (.submit c) ∧ c.request.account = a ∧
      c.nonce? = some n
  | .transaction h => ∃ r, s.gateway.watchlist.lookup? h = some r ∧ r.account = a ∧ r.nonce = n ∧
      r.status = .pending
  | .poll i slot => ∃ c o, s.calls.get? i = some c ∧ c.poll? slot = some (.releasing o) ∧
      o.record.account = a ∧ o.record.nonce = n
  | .chore i => s.calls.get? i = some (.chore (.releasing a n))

end System

/-- A submission has in hand the nonce that it holds. -/
theorem Submit.mem_held {c : Submit} (h : c.Sound) {n : Nat} (hn : c.nonce? = some n) :
    .nonce c.request.account n ∈ c.held := by
  obtain ⟨request, stage⟩ := c
  cases stage with
  | pricing k =>
      cases hn
      exact Multiset.mem_singleton_self _
  | signing k price =>
      cases hn
      exact Multiset.mem_singleton_self _
  | returning k e =>
      cases hn
      exact Multiset.mem_singleton_self _
  | broadcasting r raw =>
      cases hn
      obtain ⟨haccount, hpending, -⟩ := h r raw rfl
      simp only [held, Record.held_of_pending hpending, haccount]
      exact Multiset.mem_cons_of_mem (Multiset.mem_singleton_self _)
  | _ => cases hn

theorem Sweep.mem_held {s : Sweep} (h : s.Sound) {slot : Nat} {o : Watchlist.Observation}
    (hpoll : s.poll? slot = some (.releasing o)) :
    .nonce o.record.account o.record.nonce ∈ s.held := by
  rw [poll?_eq] at hpoll
  exact (Entries.mem_tally Settle.held h.nodup).mpr
    ⟨slot, _, hpoll, Multiset.mem_singleton_self _⟩

/-- A call has in hand the nonce that one of its polls is to give back. -/
theorem Call.mem_held_of_poll? {c : Call} (h : c.Orderly) {slot : Nat} {o : Watchlist.Observation}
    (hpoll : c.poll? slot = some (.releasing o)) :
    .nonce o.record.account o.record.nonce ∈ c.held := by
  cases c with
  | settle stage =>
      simp only [poll?] at hpoll
      split at hpoll
      · cases hpoll
        exact Multiset.mem_singleton_self _
      · cases hpoll
  | sweep s => exact Sweep.mem_held h hpoll
  | monitor m =>
      obtain ⟨refresh, reconcile, cleanup, activity⟩ := m
      cases activity with
      | sweeping s => exact Sweep.mem_held (h s rfl) hpoll
      | _ => cases hpoll
  | _ => cases hpoll

/-- Two polls of a sweep that is not to give a nonce back twice are one poll. -/
theorem Sweep.slot_unique {s : Sweep} (h : s.Sound) {i j : Nat} {o o' : Watchlist.Observation}
    (hn : s.held.count (.nonce o.record.account o.record.nonce) ≤ 1)
    (hi : s.poll? i = some (.releasing o)) (hj : s.poll? j = some (.releasing o'))
    (haccount : o.record.account = o'.record.account)
    (hnonce : o.record.nonce = o'.record.nonce) : i = j := by
  rw [poll?_eq] at hi hj
  apply Entries.eq_of_mem Settle.held h.nodup hn hi hj (Multiset.mem_singleton_self _)
  rw [haccount, hnonce]
  exact Multiset.mem_singleton_self _

theorem Call.slot_unique {c : Call} (h : c.Orderly) {i j : Nat} {o o' : Watchlist.Observation}
    (hn : c.held.count (.nonce o.record.account o.record.nonce) ≤ 1)
    (hi : c.poll? i = some (.releasing o)) (hj : c.poll? j = some (.releasing o'))
    (haccount : o.record.account = o'.record.account)
    (hnonce : o.record.nonce = o'.record.nonce) : i = j := by
  cases c with
  | settle stage =>
      simp only [poll?] at hi hj
      split at hi
      · split at hj
        · subst i
          subst j
          rfl
        · cases hj
      · cases hi
  | sweep s => exact Sweep.slot_unique h hn hi hj haccount hnonce
  | monitor m =>
      obtain ⟨refresh, reconcile, cleanup, activity⟩ := m
      cases activity with
      | sweeping s => exact Sweep.slot_unique (h s rfl) hn hi hj haccount hnonce
      | _ => cases hi
  | _ => cases hi

namespace System

variable {p : Policy} {s : System} {a : Address} {n : Nat}

/-- A holder that is a call has the nonce in hand. -/
theorem Holds.mem_held {x : Holder} {i : Nat} (hx : s.Holds a n x) (ho : s.Orderly)
    (hi : x.call? = some i) :
    ∃ c, s.calls.get? i = some c ∧ .nonce a n ∈ c.held := by
  cases x with
  | submission k =>
      cases hi
      obtain ⟨c, hget, rfl, hn⟩ := hx
      exact ⟨_, hget, c.mem_held (ho.each i _ hget) hn⟩
  | transaction h => cases hi
  | poll k slot =>
      cases hi
      obtain ⟨c, o, hget, hpoll, rfl, rfl⟩ := hx
      exact ⟨c, hget, Call.mem_held_of_poll? (ho.each i c hget) hpoll⟩
  | chore k =>
      cases hi
      exact ⟨_, hx, Multiset.mem_singleton_self _⟩

theorem Holds.mem_held_of_transaction {h : TxHash} (hx : s.Holds a n (.transaction h)) :
    ∃ r, s.gateway.watchlist.records.get? h = some r ∧ .nonce a n ∈ r.held := by
  obtain ⟨r, hr, rfl, rfl, hpending⟩ := hx
  refine ⟨r, hr, ?_⟩
  rw [Record.held_of_pending hpending]
  exact Multiset.mem_cons_of_mem (Multiset.mem_singleton_self _)

/-- What somebody holds is in hand. -/
theorem Holds.mem_inHand {x : Holder} (hx : s.Holds a n x) (ho : s.Orderly) :
    .nonce a n ∈ s.inHand := by
  cases hi : x.call? with
  | some i =>
      obtain ⟨c, hget, hc⟩ := hx.mem_held ho hi
      exact System.mem_inHand hget hc
  | none =>
      cases x with
      | transaction h =>
          obtain ⟨r, hr, hmem⟩ := hx.mem_held_of_transaction
          exact Multiset.mem_add.mpr (.inr (Watchlist.mem_held_of_lookup? hr hmem))
      | _ => cases hi

/-- One call holds a nonce in one way only. -/
theorem Holds.eq_of_call {x y : Holder} {i : Nat} (hx : s.Holds a n x) (hy : s.Holds a n y)
    (ho : s.Orderly) (hc : s.Coupled a) (hi : x.call? = some i)
    (hj : y.call? = some i) : x = y := by
  cases x with
  | submission k =>
      cases hi
      obtain ⟨c, hget, -⟩ := hx
      cases y with
      | submission k' => cases hj; rfl
      | transaction h => cases hj
      | poll k' slot =>
          cases hj
          obtain ⟨d, o, hget', hpoll, -⟩ := hy
          obtain rfl := Option.some.inj (hget.symm.trans hget')
          cases hpoll
      | chore k' =>
          cases hj
          cases hget.symm.trans hy
  | transaction h => cases hi
  | poll k slot =>
      cases hi
      obtain ⟨c, o, hget, hpoll, haccount, hnonce⟩ := hx
      cases y with
      | submission k' =>
          cases hj
          obtain ⟨d, hget', -⟩ := hy
          obtain rfl := Option.some.inj (hget.symm.trans hget')
          cases hpoll
      | transaction h => cases hj
      | poll k' slot' =>
          cases hj
          obtain ⟨d, o', hget', hpoll', haccount', hnonce'⟩ := hy
          obtain rfl := Option.some.inj (hget.symm.trans hget')
          have hle := Multiset.count_le_of_le (.nonce a n) (Table.le_tally Call.held hget)
          have hunique := hle.trans ((s.count_held_le _).trans (hc.unique n))
          rw [← haccount, ← hnonce] at hunique
          rw [Call.slot_unique (ho.each i c hget) hunique hpoll hpoll'
            (haccount.trans haccount'.symm) (hnonce.trans hnonce'.symm)]
      | chore k' =>
          cases hj
          obtain rfl := Option.some.inj (hget.symm.trans hy)
          cases hpoll
  | chore k =>
      cases hi
      cases y with
      | submission k' =>
          cases hj
          obtain ⟨d, hget', -⟩ := hy
          cases hget'.symm.trans hx
      | transaction h => cases hj
      | poll k' slot =>
          cases hj
          obtain ⟨d, o, hget', hpoll, -⟩ := hy
          obtain rfl := Option.some.inj (hget'.symm.trans hx)
          cases hpoll
      | chore k' => cases hj; rfl

/-- A nonce has one holder. -/
theorem Holds.unique {x y : Holder} (hx : s.Holds a n x) (hy : s.Holds a n y) (ho : s.Orderly)
    (hc : s.Coupled a) : x = y := by
  have hcalls := (s.count_held_le _).trans (hc.unique n)
  have hrecords := (s.count_watched_le _).trans (hc.unique n)
  -- A call and a watched transaction cannot have one thing in hand.
  have hapart : ∀ {u v : Holder} {i : Nat} {h : TxHash}, s.Holds a n u → v = .transaction h →
      s.Holds a n v → u.call? = some i → False := by
    rintro u v i h hu rfl hv hi
    obtain ⟨c, hget, hmem⟩ := hu.mem_held ho hi
    obtain ⟨r, hr, hmem'⟩ := hv.mem_held_of_transaction
    exact not_mem_of_count_add_le (hc.unique n)
      ((Table.mem_tally Call.held).mpr ⟨i, c, hget, hmem⟩)
      ((Table.mem_tally Record.held).mpr ⟨h, r, hr, hmem'⟩)
  cases hi : x.call? with
  | some i =>
      cases hj : y.call? with
      | some j =>
          obtain ⟨c, hget, hmem⟩ := hx.mem_held ho hi
          obtain ⟨d, hget', hmem'⟩ := hy.mem_held ho hj
          obtain rfl := Table.eq_of_mem Call.held hcalls hget hget' hmem hmem'
          exact hx.eq_of_call hy ho hc hi hj
      | none =>
          cases y with
          | transaction h => exact (hapart hx rfl hy hi).elim
          | _ => cases hj
  | none =>
      cases x with
      | transaction h =>
          cases hj : y.call? with
          | some j => exact (hapart hy rfl hx hj).elim
          | none =>
              cases y with
              | transaction k =>
                  obtain ⟨r, hr, hmem⟩ := hx.mem_held_of_transaction
                  obtain ⟨r', hr', hmem'⟩ := hy.mem_held_of_transaction
                  rw [Table.eq_of_mem Record.held hrecords hr hr' hmem hmem']
              | _ => cases hj
      | _ => cases hi

/-- The live transaction that the index tells of holds the nonce. -/
theorem holds_of_liveHolder? (hi : s.gateway.watchlist.Indexed) {h : TxHash}
    (hh : s.gateway.watchlist.liveHolder? a n = some h) : s.Holds a n (.transaction h) := by
  simp only [Watchlist.liveHolder?] at hh
  split at hh
  · cases hh
  · rename_i j hj
    obtain ⟨r', hr', haccount, hnonce⟩ := hi _ _ _ hj
    rw [show s.gateway.watchlist.records.get? j = some r' from hr'] at hh
    simp only at hh
    split at hh
    · rename_i hlive
      cases hh
      exact ⟨r', hr', haccount, hnonce, Record.status_of_isLive hlive⟩
    · cases hh

/-- A nonce that is in use is used by a watched transaction, which holds it. -/
theorem holds_of_inUse (hi : s.gateway.watchlist.Indexed) {r : Record} {h : TxHash}
    (he : s.gateway.watchlist.enter r = .error (.inUse a n h)) :
    a = r.account ∧ n = r.nonce ∧ s.Holds a n (.transaction h) := by
  simp only [Watchlist.enter] at he
  split at he
  · cases he
  · split at he
    · rename_i k hk
      cases he
      exact ⟨rfl, rfl, holds_of_liveHolder? hi hk⟩
    · cases he

theorem Unsent.holds {c : Nat} (h : Unsent c a n s) : s.Holds a n (.submission c) := by
  obtain ⟨request, rfl, hget | ⟨price, hget⟩⟩ := h
  · exact ⟨_, hget, rfl, rfl⟩
  · exact ⟨_, hget, rfl, rfl⟩

theorem OnItsWay.holds {c : Nat} {sent : Record} (h : OnItsWay c sent s) (ho : s.Orderly) :
    s.Holds sent.account sent.nonce (.submission c) := by
  obtain ⟨-, request, raw, hget, haccount, -⟩ := h.fresh (sound_of_orderly ho)
  exact ⟨_, hget, haccount.symm, rfl⟩

theorem GivingUp.holds {c : Nat} (h : GivingUp c a n s) : s.Holds a n (.submission c) := by
  obtain ⟨request, e, rfl, hget⟩ := h
  exact ⟨_, hget, rfl, rfl⟩

/-- A submission that holds a nonce has sent nothing yet, or is giving the nonce back, or waits for
its broadcast. -/
theorem Holds.stage {c : Nat} (h : s.Holds a n (.submission c)) (ho : s.Orderly) :
    Unsent c a n s ∨ GivingUp c a n s ∨
      ∃ sent, OnItsWay c sent s ∧ sent.account = a ∧ sent.nonce = n := by
  obtain ⟨⟨request, stage⟩, hget, rfl, hn⟩ := h
  cases stage with
  | pricing k =>
      cases hn
      exact .inl ⟨request, rfl, .inl hget⟩
  | signing k price =>
      cases hn
      exact .inl ⟨request, rfl, .inr ⟨price, hget⟩⟩
  | returning k e =>
      cases hn
      exact .inr (.inl ⟨request, e, rfl, hget⟩)
  | broadcasting r raw =>
      cases hn
      obtain ⟨haccount, -, -⟩ := ho.each c _ hget r raw rfl
      exact .inr (.inr ⟨r, ⟨request, raw, hget⟩, haccount, rfl⟩)
  | _ => cases hn

section

variable {m : Moment} {c : Nat} {sent r : Record}

/-- A refused submission is about to give its nonce back. -/
theorem Refuses.givingUp (h : Refuses c sent s m) (ho : s.Orderly) :
    GivingUp c sent.account sent.nonce (s.pass p m) := by
  obtain ⟨hway, slot, reason, hwhat⟩ := h
  obtain ⟨-, request, raw, hget, haccount, -⟩ := hway.fresh (sound_of_orderly ho)
  obtain ⟨now, what⟩ := m
  cases hwhat
  have hnext := get?_reply (ho.lt_opened c _ hget) p now c slot (.rejected reason)
  rw [if_pos rfl, hget, Option.bind_some] at hnext
  exact ⟨request, _, haccount.symm, hnext⟩

/-- When the wait for a broadcast is concluded the transaction is entered in the watchlist, or the
watchlist stays as it is and the submission is at its end. -/
theorem OnItsWay.enters (h : OnItsWay c sent s) (hr : m.concludes? c sent = some r)
    (ho : s.Orderly) :
    (Tracks p c r s m ∧ ∀ k, (s.pass p m).gateway.watchlist.lookup? k =
        if k = r.hash then some r else s.gateway.watchlist.lookup? k) ∨
      ((s.pass p m).gateway.watchlist = s.gateway.watchlist ∧ Gone c (s.pass p m)) := by
  obtain ⟨-, hgateway, hcalls⟩ := h.concluded (p := p) hr
  obtain ⟨-, -, -, hopen⟩ := concluded_eq hr (h.fresh (sound_of_orderly ho)).1
  rcases s.gateway.watch_cases r with
    ⟨g', hwatch, hentered, -⟩ | ⟨g', conflict, hwatch, -, hsteady⟩
  · obtain ⟨hnew, hlookup⟩ := Watchlist.lookup?_of_enter hentered
    have hafter : (s.pass p m).gateway = g' := by rw [hgateway, hwatch]
    rw [← hafter] at hlookup
    refine .inl ⟨⟨⟨sent, h, hr⟩, hnew, ?_, hopen⟩, hlookup⟩
    rw [hlookup, if_pos rfl]
  · rw [hwatch] at hgateway
    refine .inr ⟨?_, ?_⟩
    · rw [hgateway]
      exact hsteady.watchlist_eq
    · rw [Gone, hcalls _ (by rw [hwatch]), Table.get?_erase, if_pos rfl]

/-- A submission goes on holding its nonce until it is at its end, or its transaction is watched. -/
theorem Holds.pass (h : s.Holds a n (.submission c)) (ho : s.Orderly) (hm : m.IsOrderly) :
    (s.pass p m).Holds a n (.submission c) ∨ Gone c (s.pass p m) ∨
      ∃ r, Tracks p c r s m ∧ r.account = a ∧ r.nonce = n := by
  have hopened : c < s.opened := by
    obtain ⟨d, hget, -⟩ := h
    exact ho.lt_opened c _ hget
  rcases h.stage ho with hunsent | hgiving | ⟨sent, hway, rfl, rfl⟩
  · rcases hunsent.pass (p := p) (m := m) hopened with
      hstill | hgiving | hgone | ⟨sent, hway, haccount, hnonce⟩
    · exact .inl hstill.holds
    · exact .inl hgiving.holds
    · exact .inr (.inl hgone)
    · subst haccount
      subst hnonce
      exact .inl (hway.holds (orderly_pass ho p hm))
  · rcases hgiving.pass (p := p) (m := m) hopened with hstill | hgone
    · exact .inl hstill.holds
    · exact .inr (.inl hgone)
  · rcases hway.pass (p := p) (m := m) hopened with hstill | hrefused | ⟨r, hr⟩
    · exact .inl (hstill.holds (orderly_pass ho p hm))
    · exact .inl (hrefused.givingUp ho).holds
    · obtain ⟨-, haccount, hnonce, -⟩ := concluded_eq hr (hway.fresh (sound_of_orderly ho)).1
      rcases hway.enters (p := p) hr ho with ⟨htracks, -⟩ | ⟨-, hgone⟩
      · exact .inr (.inr ⟨r, htracks, haccount, hnonce⟩)
      · exact .inr (.inl hgone)

end

end System

end TxGateway
