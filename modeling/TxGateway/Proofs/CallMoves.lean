import TxGateway.Proofs.Moves

/-!
# Every moment of an orderly run is a move

A run is orderly if no recovery is set going, and nobody gives back a nonce that may be in the hands
of somebody else. Then every moment is a move of what all calls have in hand together.
-/

namespace TxGateway

namespace Monitor

/-- The sweep of a monitor is sound. -/
def Sound (m : Monitor) : Prop := ∀ s, m.activity = .sweeping s → s.Sound

variable {g g' : Gateway} {t : Option (Address × Turn)} {mine : Multiset Token}

theorem proceeds_settle (m : Monitor) (h : Move g g' t mine 0) :
    Proceeds held Sound g t mine (g', settle g' m) := by
  simp only [settle]
  split
  · exact h
  · exact ⟨h, fun _ hs => by cases hs⟩

theorem proceeds_afterSweep (m : Monitor) {x : Progress Sweep Nat}
    (h : Advances Sweep.held Sweep.Sound g t mine (g', x)) :
    Proceeds held Sound g t mine (g', m.afterSweep g' x) := by
  cases x with
  | waiting s =>
      refine ⟨h.1, fun s' hs' => ?_⟩
      cases hs'
      exact h.2
  | ended n => exact proceeds_settle m h

theorem proceeds_afterReconcile (m : Monitor) {x : Progress ReconcileAll Unit}
    (h : Advances (fun _ => 0) (fun _ => True) g t mine (g', x)) :
    Proceeds held Sound g t mine (g', m.afterReconcile g' x) := by
  cases x with
  | waiting r => exact ⟨h.1, fun _ hs => by cases hs⟩
  | ended u => exact proceeds_settle m h

theorem proceeds_act (p : Policy) (now : Timestamp) (g : Gateway) (m : Monitor) (i : Nat)
    (h : m.Sound) (hm : m.held = 0) : Proceeds held Sound g none 0 (m.act p now g i) := by
  have hacts := m.acts p now g i
  generalize m.act p now g i = x at hacts ⊢
  cases hacts with
  | sweeps => exact proceeds_afterSweep _ (Sweep.advances_start g)
  | reconciles =>
      apply proceeds_afterReconcile
      cases g.knownAccounts with
      | nil => exact .keep (.refl g) no_give_back le_rfl
      | cons a rest => exact ⟨.keep (.refl g) no_give_back le_rfl, trivial⟩
  | forgets evicts =>
      apply proceeds_settle
      rcases Gateway.purged_of_evict evicts with rfl | ⟨cutoff, rfl⟩
      · exact .keep (.refl _) no_give_back le_rfl
      · exact .purge rfl rfl rfl
  | breaksOff => exact ⟨rfl, rfl⟩
  | waits =>
      refine ⟨.keep (.refl g) no_give_back ?_, h⟩
      rw [hm]

theorem proceeds (m : Monitor) (h : m.Sound) (p : Policy) (now : Timestamp) (g : Gateway) (i : Nat)
    (reply : Reply) :
    Proceeds held Sound g (m.turn? i reply) m.held (m.resume p now g i reply) := by
  obtain ⟨refresh, reconcile, cleanup, activity⟩ := m
  cases activity with
  | idle =>
      cases reply with
      | done => exact proceeds_act p now g _ i h rfl
      | _ => exact ⟨.keep (.refl g) no_give_back le_rfl, h⟩
  | sweeping s => exact proceeds_afterSweep _ (s.advances (h s rfl) p now g i reply)
  | reconciling r => exact proceeds_afterReconcile _ (r.advances now g reply)

end Monitor

namespace Submit

/-- The record of a transaction on its way is that of the submission. -/
def Sound (c : Submit) : Prop :=
  ∀ r raw, c.stage = .broadcasting r raw →
    r.account = c.request.account ∧ r.status = .pending ∧ r.hash = TxHash.ofRaw raw

end Submit

/-- Beginning to watch a transaction takes what is in hand, or loses it. -/
theorem Gateway.watch_cases (g : Gateway) (r : Record) :
    (∃ g', g.watch r = (g', .ok ()) ∧ g.watchlist.enter r = .ok g'.watchlist ∧
        g'.issued = g.issued) ∨
      ∃ g' conflict, g.watch r = (g', .error (.violation conflict.message)) ∧
        g.watchlist.enter r = .error conflict ∧ g.Steady g' := by
  simp only [watch]
  split
  · rename_i w hw
    exact .inl ⟨_, rfl, hw, rfl⟩
  · rename_i conflict hw
    exact .inr ⟨_, conflict, rfl, hw, g.steady_measure _⟩

theorem Move.entered {g g' : Gateway} {r : Record} (h : g.watchlist.enter r = .ok g'.watchlist)
    (hi : g'.issued = g.issued) : Move g g' none r.held 0 := by
  have hmove : Move g g' none (r.held + 0) 0 := .enter h hi rfl
  rwa [add_zero] at hmove

namespace Submit

theorem proceeds_toObtain (request : Request) (g : Gateway) :
    Proceeds held Sound g none 0 (toObtain request g) :=
  ⟨.keep (g.spares_ensureLedger request.account).toSteady no_give_back le_rfl,
    fun _ _ hr => by cases hr⟩

/-- A step that leaves a submission where it stands. -/
theorem proceeds_stay (c : Submit) (h : c.Sound) (g : Gateway) :
    Proceeds held Sound g none c.held (g, (.waiting c : Progress Submit (Ending Submission))) :=
  ⟨.keep (.refl g) no_give_back le_rfl, h⟩

theorem proceeds_send (now : Timestamp) (g : Gateway) (request : Request) (n : Nat) (raw : Bytes) :
    Proceeds held Sound g none {.nonce request.account n} (send now g request n raw) := by
  refine ⟨.issue rfl rfl rfl, fun r raw' hr => ?_⟩
  cases hr
  exact ⟨rfl, rfl, rfl⟩

theorem proceeds_accept (now : Timestamp) (g : Gateway) (c : Submit) {sent : Record}
    (hsent : sent.status = .pending) (hash : TxHash) :
    Proceeds held Sound g none sent.held (accept now g c sent hash) := by
  have hheld : (Record.fresh now ⟨sent.id, sent.account, sent.nonce, hash⟩).held = sent.held := by
    rw [Record.held_of_pending hsent]
    rfl
  rw [← hheld]
  simp only [accept]
  rcases g.watch_cases (.fresh now ⟨sent.id, sent.account, sent.nonce, hash⟩) with
    ⟨g', hwatch, hentered, hissued⟩ | ⟨g', conflict, hwatch, -, hsteady⟩
  · rw [hwatch]
    exact ⟨.entered hentered hissued, fun _ _ hr => by cases hr⟩
  · rw [hwatch]
    exact .keep hsteady no_give_back (Multiset.zero_le _)

theorem proceeds_hold (g : Gateway) (c : Submit) (sent : Record) (e : Failure) :
    Proceeds held Sound g none sent.held (hold g c sent e) := by
  simp only [hold]
  rcases g.watch_cases sent with
    ⟨g', hwatch, hentered, hissued⟩ | ⟨g', conflict, hwatch, -, hsteady⟩
  · rw [hwatch]
    exact ⟨.entered hentered hissued, fun _ _ hr => by cases hr⟩
  · rw [hwatch]
    exact .keep hsteady no_give_back (Multiset.zero_le _)

theorem proceeds (c : Submit) (h : c.Sound) (p : Policy) (now : Timestamp) (g : Gateway)
    (reply : Reply) : Proceeds held Sound g (c.turn? reply) c.held (c.resume p now g reply) := by
  obtain ⟨request, stage⟩ := c
  cases stage with
  | aging =>
      cases reply with
      | done =>
          simp only [resume]
          split
          · exact ⟨.keep (.refl g) no_give_back le_rfl, fun _ _ hr => by cases hr⟩
          · exact proceeds_toObtain request g
      | _ => exact proceeds_stay _ h g
  | refreshing r =>
      have hsteady := r.steady_resume request.account now g reply
      have hturn := fun b n => r.turn?_ne request.account b n reply
      simp only [resume, turn?]
      split <;> rename_i hstep <;> rw [hstep] at hsteady
      · exact ⟨.keep hsteady hturn le_rfl, fun _ _ hr => by cases hr⟩
      · exact ⟨.keep hsteady hturn le_rfl, fun _ _ hr => by cases hr⟩
      · exact .keep hsteady hturn le_rfl
  | noting =>
      cases reply with
      | done => exact proceeds_toObtain request g
      | failed e => exact proceeds_toObtain request g
      | _ => exact proceeds_stay _ h g
  | obtaining o =>
      have hsteady := o.steady_resume request.account request.choice now g reply
      have hturn := fun b n => o.turn?_ne request.account b request.choice n reply
      simp only [resume, turn?]
      split <;> rename_i hstep <;> rw [hstep] at hsteady
      · exact ⟨.keep hsteady hturn le_rfl, fun _ _ hr => by cases hr⟩
      · obtain ⟨hgiven, hgot⟩ := Obtain.granted hstep
        exact ⟨.grant hsteady hgiven hgot, fun _ _ hr => by cases hr⟩
      · exact .keep hsteady hturn le_rfl
  | pricing n =>
      cases reply with
      | price price =>
          simp only [resume]
          split
          · exact ⟨.keep (.refl g) no_give_back le_rfl, fun _ _ hr => by cases hr⟩
          · exact ⟨rfl, rfl⟩
      | failed e => exact ⟨.keep (.refl g) no_give_back le_rfl, fun _ _ hr => by cases hr⟩
      | _ => exact proceeds_stay _ h g
  | signing n price =>
      cases reply with
      | signed raw => exact proceeds_send now g request n raw
      | failed e => exact ⟨.keep (.refl g) no_give_back le_rfl, fun _ _ hr => by cases hr⟩
      | _ => exact proceeds_stay _ h g
  | broadcasting sent raw =>
      obtain ⟨haccount, hpending, -⟩ := h sent raw rfl
      cases reply with
      | accepted hash => exact proceeds_accept now g _ hpending hash
      | rejected reason =>
          refine ⟨.keep (.refl g) no_give_back ?_, fun _ _ hr => by cases hr⟩
          -- The serial number is of no more use; the nonce is still to be given back.
          simp only [held, Record.held_of_pending hpending, haccount]
          exact Multiset.le_cons_self _ _
      | unreachable detail => exact proceeds_hold g _ sent _
      | silence => exact proceeds_hold g _ sent _
      | _ => exact proceeds_stay _ h g
  | returning n e =>
      cases reply with
      | done =>
          simp only [resume]
          refine .giveBack (a := request.account) (n := n) ?_ rfl
          have hback := (g.spares_giveBack request.account n).toSteady
          split
          · exact hback.trans (Gateway.steady_measure _ _)
          · exact hback
      | _ => exact proceeds_stay _ h g
  | holding r e =>
      cases reply with
      | done => exact .keep (.refl g) no_give_back le_rfl
      | failed e' => exact .keep (.refl g) no_give_back le_rfl
      | _ => exact proceeds_stay _ h g
  | saving submission r =>
      cases reply with
      | done => exact .keep (g.steady_measure _) no_give_back le_rfl
      | failed e => exact .keep (g.steady_measure _) no_give_back le_rfl
      | _ => exact proceeds_stay _ h g

end Submit

theorem Progress.exists_of_map_eq_waiting {σ τ α β : Type} {x : Progress σ α} {f : σ → τ}
    {e : α → β} {d : τ} (h : x.map f e = .waiting d) : ∃ c, x = .waiting c ∧ d = f c := by
  cases x with
  | waiting c =>
      cases h
      exact ⟨c, rfl, rfl⟩
  | ended result => cases h

theorem Progress.of_map_eq_waiting {σ τ α β : Type} {x : Progress σ α} {f : σ → τ} {e : α → β}
    {d : τ} (h : x.map f e = .waiting d) : ∃ c, d = f c := by
  obtain ⟨c, -, hd⟩ := exists_of_map_eq_waiting h
  exact ⟨c, hd⟩

/-- Whether a task gives nonces back only if it has them in hand. -/
def Task.isOrderly : Task → Bool
  | giveBack .. | recover _ => false
  | _ => true

namespace Call

/-- A call of an orderly task in a sound state. -/
def Orderly : Call → Prop
  | submit stage => stage.Sound
  | sweep stage => stage.Sound
  | monitor stage => stage.Sound
  | giveBack .. | recover _ => False
  | _ => True

theorem proceeds_start (p : Policy) (now : Timestamp) (g : Gateway) (t : Task)
    (ht : t.isOrderly = true) : Proceeds held Orderly g none 0 (start p now g t) := by
  have hkeep : Move g g none 0 0 := .keep (.refl g) no_give_back le_rfl
  cases t with
  | reconcile a => exact ⟨hkeep, trivial⟩
  | obtain a choice => exact ⟨.keep (g.spares_ensureLedger a).toSteady no_give_back le_rfl, trivial⟩
  | giveBack a n => cases ht
  | expire a =>
      simp only [start]
      split
      · exact ⟨hkeep, trivial⟩
      · exact hkeep
  | currentNonce a => exact ⟨hkeep, trivial⟩
  | poll h =>
      simp only [start, Poll.start]
      split
      · exact hkeep
      · split
        · exact ⟨hkeep, trivial⟩
        · exact hkeep
  | settle h =>
      simp only [start]
      cases hc : Settle.start h g with
      | waiting c => exact ⟨by rw [held, Settle.held_of_start hc]; exact hkeep, trivial⟩
      | ended result => exact hkeep
  | submit request =>
      constructor
      · simp only [held, Submit.start]
        split <;> exact hkeep
      · simp only [Submit.start]
        split <;> exact fun _ _ hr => by cases hr
  | recover held => cases ht
  | reconcileAll =>
      simp only [start]
      cases g.knownAccounts with
      | nil => exact hkeep
      | cons a rest => exact ⟨hkeep, trivial⟩
  | sweep =>
      exact (Sweep.advances_start g).map sweep _ (fun _ => rfl) (fun _ hc => hc) fun _ => ⟨_, rfl⟩
  | monitor =>
      simp only [start, Monitor.start]
      split
      · exact ⟨rfl, rfl⟩
      · simp only [Monitor.settle]
        split
        · exact hkeep
        · exact ⟨hkeep, fun _ hs => by cases hs⟩
  | storeHealth => exact ⟨hkeep, trivial⟩
  | readiness => exact ⟨hkeep, trivial⟩

theorem proceeds_proceed (p : Policy) (now : Timestamp) (g : Gateway) (c : Call) (hc : c.Orderly)
    (slot : Nat) (reply : Reply) :
    Proceeds held Orderly g (c.turnOf? slot reply) c.held (c.proceed p now g slot reply) := by
  cases c with
  | reconcile a stage =>
      have hsteady := stage.steady_resume a now g reply
      have hturn := fun b n => stage.turn?_ne a b n reply
      simp only [proceed, turnOf?]
      cases hx : stage.resume a now g reply with
      | mk g' x =>
          rw [hx] at hsteady
          cases x with
          | waiting r => exact ⟨.keep hsteady hturn le_rfl, trivial⟩
          | ended result => exact .keep hsteady hturn le_rfl
  | obtain a choice stage =>
      have hsteady := stage.steady_resume a choice now g reply
      have hturn := fun b n => stage.turn?_ne a b choice n reply
      simp only [proceed, turnOf?]
      cases hx : stage.resume a choice now g reply with
      | mk g' x =>
          rw [hx] at hsteady
          cases x with
          | waiting o => exact ⟨.keep hsteady hturn le_rfl, trivial⟩
          | ended result => exact .keep hsteady hturn le_rfl
  | giveBack a n => exact hc.elim
  | expire a => exact .keep (g.spares_expire a).toSteady (fun _ _ => by simp [turnOf?]) le_rfl
  | currentNonce a stage =>
      simp only [proceed]
      cases stage.resume a g reply with
      | waiting stage => exact ⟨.keep (.refl g) no_give_back le_rfl, trivial⟩
      | ended result => exact .keep (.refl g) no_give_back le_rfl
  | poll stage =>
      exact (stage.advances p now g reply).map poll _ (fun _ => rfl) (fun _ _ => trivial)
        fun _ => ⟨_, rfl⟩
  | settle stage =>
      exact (stage.advances p now g reply).map settle _ (fun _ => rfl) (fun _ _ => trivial)
        fun _ => ⟨_, rfl⟩
  | submit stage =>
      exact (stage.proceeds hc p now g reply).map submit _ (fun _ => rfl) (fun _ h => h)
  | recover stage => exact hc.elim
  | reconcileAll stage =>
      exact (stage.advances now g reply).map reconcileAll _ (fun _ => rfl) (fun _ _ => trivial)
        fun _ => ⟨_, rfl⟩
  | sweep stage =>
      exact (stage.advances hc p now g slot reply).map sweep _ (fun _ => rfl) (fun _ h => h)
        fun _ => ⟨_, rfl⟩
  | monitor stage =>
      exact (stage.proceeds hc p now g slot reply).map monitor _ (fun _ => rfl) (fun _ h => h)
  | chore stage =>
      exact (stage.advances g reply).map chore _ (fun _ => rfl) (fun _ _ => trivial)
        fun _ => ⟨_, rfl⟩
  | storeHealth => exact .keep (.refl g) no_give_back le_rfl
  | readiness store =>
      cases store with
      | none => exact ⟨.keep (.refl g) no_give_back le_rfl, trivial⟩
      | some ok => exact .keep (g.steady_measure _) no_give_back le_rfl

theorem proceeds_resume (p : Policy) (now : Timestamp) (g : Gateway) (c : Call) (hc : c.Orderly)
    (slot : Nat) (reply : Reply) :
    Proceeds held Orderly g (c.turn? slot reply) c.held (c.resume p now g slot reply) := by
  cases reply with
  | crashed crash =>
      simp only [resume]
      split
      · exact ⟨rfl, rfl⟩
      · exact ⟨.keep (.refl g) no_give_back le_rfl, hc⟩
  | _ => exact c.proceeds_proceed p now g hc slot _

/-- A call in a sound state, whatever its task is. -/
def Sound : Call → Prop
  | giveBack .. | recover _ => True
  | c => c.Orderly

theorem sound_of_orderly {c : Call} (h : c.Orderly) : c.Sound := by
  cases c with
  | giveBack a n => trivial
  | recover stage => trivial
  | _ => exact h

theorem sound_start (p : Policy) (now : Timestamp) (g : Gateway) (t : Task) {d : Call}
    (hd : (start p now g t).2 = .waiting d) : d.Sound := by
  cases ht : t.isOrderly with
  | true =>
      have hstep := proceeds_start p now g t ht
      generalize start p now g t = x at hd hstep
      obtain ⟨g', x⟩ := x
      cases hd
      exact sound_of_orderly hstep.2
  | false =>
      cases t with
      | giveBack a n =>
          simp only [start] at hd
          split at hd
          · cases hd
            trivial
          · cases hd
      | recover held =>
          cases hd
          trivial
      | _ => cases ht

theorem sound_resume (p : Policy) (now : Timestamp) (g : Gateway) (c : Call) (hc : c.Sound)
    (slot : Nat) (reply : Reply) {d : Call} (hd : (c.resume p now g slot reply).2 = .waiting d) :
    d.Sound := by
  have horderly (ho : c.Orderly) : d.Sound := by
    have hstep := c.proceeds_resume p now g ho slot reply
    generalize c.resume p now g slot reply = x at hd hstep
    obtain ⟨g', x⟩ := x
    cases hd
    exact sound_of_orderly hstep.2
  cases c with
  | giveBack a n =>
      cases reply with
      | crashed crash =>
          simp only [resume] at hd
          split at hd
          · cases hd
          · cases hd
            trivial
      | _ => cases hd
  | recover stage =>
      cases reply with
      | crashed crash =>
          simp only [resume] at hd
          split at hd
          · cases hd
          · cases hd
            trivial
      | _ =>
          simp only [resume, proceed] at hd
          obtain ⟨stage', rfl⟩ := Progress.of_map_eq_waiting hd
          trivial
  | _ => exact horderly hc

/-- Dropping a call leaves what it had in hand to its chores, or to the watchlist. -/
theorem move_abandon (g : Gateway) (c : Call) :
    Move g (c.abandon g).1 none c.held (((c.abandon g).2.map Chore.held).sum) := by
  cases c with
  | submit stage =>
      obtain ⟨request, stage⟩ := stage
      simp only [abandon, Submit.abandon]
      cases stage with
      | pricing n => exact .keep (.refl g) no_give_back (by simp [held, Submit.held, Chore.held])
      | signing n price =>
          exact .keep (.refl g) no_give_back (by simp [held, Submit.held, Chore.held])
      | broadcasting sent raw =>
          simp only
          rcases g.watch_cases sent with
            ⟨g', hwatch, hentered, hissued⟩ | ⟨g', conflict, hwatch, -, hsteady⟩
          · rw [hwatch]
            exact .entered hentered hissued
          · rw [hwatch]
            exact .keep hsteady no_give_back (Multiset.zero_le _)
      | _ => exact .keep (.refl g) no_give_back (Multiset.zero_le _)
  | _ => exact .keep (.refl g) no_give_back (Multiset.zero_le _)

end Call

end TxGateway
