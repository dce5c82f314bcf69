import TxGateway.Proofs.Custody

/-!
# Every step of a call is a move

For each kind of call: whatever answer it gets, its step is a move of what it has in hand. Calls
that give back a nonce of the operator's choice, and recoveries, are left out: they may give back a
nonce that is in the hands of somebody else.
-/

namespace TxGateway

/-- A step of a call that waits again or has its result. -/
def Advances {σ α : Type} (held : σ → Multiset Token) (sound : σ → Prop) (g : Gateway)
    (t : Option (Address × Turn)) (mine : Multiset Token) : Gateway × Progress σ α → Prop
  | (g', .waiting c) => Move g g' t mine (held c) ∧ sound c
  | (g', .ended _) => Move g g' t mine 0

/-- A step of a call that may crash: then it has changed nothing, and is still to be dropped. -/
def Proceeds {σ α : Type} (held : σ → Multiset Token) (sound : σ → Prop) (g : Gateway)
    (t : Option (Address × Turn)) (mine : Multiset Token) : Gateway × Progress σ (Ending α) → Prop
  | (g', .waiting c) => Move g g' t mine (held c) ∧ sound c
  | (g', .ended (.returned _)) => Move g g' t mine 0
  | (g', .ended (.crashed _)) => g' = g ∧ t = none

section

variable {σ τ α β : Type} {held : σ → Multiset Token} {sound : σ → Prop}
  {held' : τ → Multiset Token} {sound' : τ → Prop} {g g' : Gateway} {t : Option (Address × Turn)}
  {mine : Multiset Token}

theorem Advances.map {x : Progress σ α} (h : Advances held sound g t mine (g', x)) (f : σ → τ)
    (e : α → Ending β) (hheld : ∀ c, held' (f c) = held c) (hsound : ∀ c, sound c → sound' (f c))
    (hend : ∀ a, ∃ r, e a = .returned r) : Proceeds held' sound' g t mine (g', x.map f e) := by
  cases x with
  | waiting c => exact ⟨by rw [hheld]; exact h.1, hsound c h.2⟩
  | ended a =>
      obtain ⟨r, hr⟩ := hend a
      simp only [Progress.map, hr]
      exact h

theorem Proceeds.map {x : Progress σ (Ending α)} (h : Proceeds held sound g t mine (g', x))
    (f : σ → τ) (e : α → β) (hheld : ∀ c, held' (f c) = held c)
    (hsound : ∀ c, sound c → sound' (f c)) :
    Proceeds held' sound' g t mine (g', x.map f (.map e)) := by
  cases x with
  | waiting c => exact ⟨by rw [hheld]; exact h.1, hsound c h.2⟩
  | ended r => cases r <;> exact h

end

theorem Reconcile.turn?_ne (r : Reconcile) (a b : Address) (n : Nat) (reply : Reply) :
    (r.turn? reply).map (a, ·) ≠ some (b, .giveBack n) := by
  cases r with
  | asking => simp [turn?]
  | applying count => cases reply <;> simp [turn?]

theorem Reconcile.steady_resume (r : Reconcile) (a : Address) (now : Timestamp) (g : Gateway)
    (reply : Reply) : g.Steady (r.resume a now g reply).1 := by
  cases r with
  | asking => cases reply <;> exact .refl g
  | applying count =>
      cases reply with
      | done => exact (g.spares_reconcile a now count).toSteady
      | _ => exact .refl g

theorem Obtain.turn?_ne (o : Obtain) (a b : Address) (choice : NonceChoice) (n : Nat)
    (reply : Reply) : (o.turn? choice reply).map (a, ·) ≠ some (b, .giveBack n) := by
  cases o with
  | turn => cases reply <;> simp [turn?]
  | seeding r => exact r.turn?_ne a b n reply

theorem Obtain.steady_resume (o : Obtain) (a : Address) (choice : NonceChoice) (now : Timestamp)
    (g : Gateway) (reply : Reply) : g.Steady (o.resume a choice now g reply).1 := by
  cases o with
  | turn =>
      cases reply with
      | done =>
          have h := (g.spares_obtain a choice).toSteady
          simp only [resume]
          split <;> simpa [*] using h
      | _ => exact .refl g
  | seeding r =>
      have h := r.steady_resume a now g reply
      simp only [resume]
      split <;> simpa [*] using h

/-- A call for a nonce that ends well has been handed that nonce at its turn. -/
theorem Obtain.granted {o : Obtain} {a : Address} {choice : NonceChoice} {now : Timestamp}
    {g g' : Gateway} {reply : Reply} {n : Nat}
    (h : o.resume a choice now g reply = (g', .ended (.ok n))) :
    (o.turn? choice reply).map (a, ·) = some (a, .obtain choice) ∧
      (g.obtain a choice).2 = some (.ok n) := by
  cases o with
  | turn =>
      cases reply with
      | done =>
          simp only [resume] at h
          split at h
          · cases h
            simp [turn?, *]
          · cases h
      | _ => cases h
  | seeding r =>
      simp only [resume] at h
      split at h <;> cases h

theorem ReconcileAll.advances (c : ReconcileAll) (now : Timestamp) (g : Gateway) (reply : Reply) :
    Advances (fun _ => 0) (fun _ => True) g (c.turn? reply) 0 (c.resume now g reply) := by
  have hsteady := c.stage.steady_resume c.account now g reply
  have hturn : ∀ a n, c.turn? reply ≠ some (a, .giveBack n) := fun a n =>
    c.stage.turn?_ne c.account a n reply
  simp only [resume]
  split
  · rename_i g' stage hstep
    rw [hstep] at hsteady
    exact ⟨.keep hsteady hturn le_rfl, trivial⟩
  · rename_i g' result hstep
    rw [hstep] at hsteady
    cases c.rest with
    | nil => exact .keep hsteady hturn le_rfl
    | cons a rest => exact ⟨.keep hsteady hturn le_rfl, trivial⟩

theorem Chore.advances (c : Chore) (g : Gateway) (reply : Reply) :
    Advances held (fun _ => True) g (c.turn? reply) c.held (c.resume g reply) := by
  cases c with
  | releasing a n =>
      cases reply with
      | done => exact ⟨.giveBack (g.spares_giveBack a n).toSteady rfl, trivial⟩
      | _ => exact ⟨.keep (.refl g) (fun _ _ => by simp [turn?]) le_rfl, trivial⟩
  | expiring a =>
      cases reply with
      | done => exact .keep (g.spares_expire a).toSteady (fun _ _ => by simp [turn?]) le_rfl
      | _ => exact ⟨.keep (.refl g) (fun _ _ => by simp [turn?]) le_rfl, trivial⟩
  | saving r =>
      cases reply with
      | done => exact .keep (.refl g) (fun _ _ => by simp [turn?]) le_rfl
      | failed e => exact .keep (.refl g) (fun _ _ => by simp [turn?]) le_rfl
      | _ => exact ⟨.keep (.refl g) (fun _ _ => by simp [turn?]) le_rfl, trivial⟩

/-- What a poll does with an answer: it asks on, it fails, or it takes a status in. -/
theorem Poll.resume_cases (c : Poll) (p : Policy) (now : Timestamp) (g : Gateway) (reply : Reply) :
    (∃ c', c.resume p now g reply = (g, .waiting c')) ∨
      (∃ g' e, g.Steady g' ∧ c.resume p now g reply = (g', .ended (.error e))) ∨
      ∃ g' status o, g.watchlist.polled? c.hash now status = some (g'.watchlist, o) ∧
        g'.issued = g.issued ∧ c.resume p now g reply = (g', .ended (.ok o)) := by
  simp only [resume]
  split
  · exact .inl ⟨_, rfl⟩
  · exact .inl ⟨_, rfl⟩
  · exact .inr (.inl ⟨_, _, g.steady_measure _, rfl⟩)
  · rename_i status hverdict
    simp only [Poll.apply]
    split
    · exact .inr (.inl ⟨_, _, .refl g, rfl⟩)
    · rename_i w o hpolled
      refine .inr (.inr ⟨_, status, o, ?_, ?_, rfl⟩)
      · rw [hpolled]
        split <;> rfl
      · split <;> rfl

theorem Poll.advances (c : Poll) (p : Policy) (now : Timestamp) (g : Gateway) (reply : Reply) :
    Advances (fun _ => 0) (fun _ => True) g none 0 (c.resume p now g reply) := by
  rcases c.resume_cases p now g reply with
    ⟨c', hstep⟩ | ⟨g', e, hsteady, hstep⟩ | ⟨g', status, o, hpolled, hissued, hstep⟩
  · rw [hstep]
    exact ⟨.keep (.refl g) no_give_back le_rfl, trivial⟩
  · rw [hstep]
    exact .keep hsteady no_give_back le_rfl
  · rw [hstep]
    exact .poll hpolled hissued rfl (Multiset.zero_le _)

/-- Only a poll that has made a transaction final, as dropped, goes on with its nonce in hand. -/
theorem Settle.advances (c : Settle) (p : Policy) (now : Timestamp) (g : Gateway) (reply : Reply) :
    Advances held (fun _ => True) g (c.turn? reply) c.held (c.resume p now g reply) := by
  cases c with
  | polling poll =>
      have hturn : ∀ a n, (polling poll).turn? reply ≠ some (a, .giveBack n) := no_give_back
      simp only [resume]
      rcases poll.resume_cases p now g reply with
        ⟨c', hstep⟩ | ⟨g', e, hsteady, hstep⟩ | ⟨g', status, o, hpolled, hissued, hstep⟩
      · rw [hstep]
        exact ⟨.keep (.refl g) hturn le_rfl, trivial⟩
      · rw [hstep]
        exact .keep hsteady hturn le_rfl
      · rw [hstep]
        by_cases hchanged : o.changed = true
        · by_cases hdropped : o.record.status = .dropped
          · simp only [afterPoll, hchanged, hdropped, Bool.not_true, Bool.false_eq_true, if_false,
              if_true]
            refine ⟨.poll hpolled hissued rfl ?_, trivial⟩
            simp [Watchlist.Observation.held, hchanged, hdropped, held]
          · simp only [afterPoll, hchanged, hdropped, Bool.not_true, Bool.false_eq_true, if_false]
            exact ⟨.poll hpolled hissued rfl (Multiset.zero_le _), trivial⟩
        · simp only [afterPoll, hchanged, Bool.not_false, if_true]
          exact .poll hpolled hissued rfl (Multiset.zero_le _)
  | releasing o =>
      cases reply with
      | done =>
          have hsteady := (g.spares_giveBack o.record.account o.record.nonce).toSteady
          exact ⟨.giveBack hsteady rfl, trivial⟩
      | _ => exact ⟨.keep (.refl g) (fun _ _ => by simp [turn?]) le_rfl, trivial⟩
  | expiring o =>
      cases reply with
      | done =>
          have hsteady := (g.spares_expire o.record.account).toSteady
          exact ⟨.keep hsteady (fun _ _ => by simp [turn?]) le_rfl, trivial⟩
      | _ => exact ⟨.keep (.refl g) (fun _ _ => by simp [turn?]) le_rfl, trivial⟩
  | saving o =>
      cases reply with
      | done => exact .keep (.refl g) (fun _ _ => by simp [turn?]) le_rfl
      | failed e => exact .keep (.refl g) (fun _ _ => by simp [turn?]) le_rfl
      | _ => exact ⟨.keep (.refl g) (fun _ _ => by simp [turn?]) le_rfl, trivial⟩

/-- A poll has nothing in hand when it begins. -/
theorem Settle.held_of_start {h : TxHash} {g : Gateway} {c : Settle}
    (hc : Settle.start h g = .waiting c) : c.held = 0 := by
  simp only [start, Poll.start] at hc
  split at hc
  · cases hc
  · split at hc
    · cases hc
      rfl
    · cases hc

namespace Sweep

/-- The polls of a sweep have numbers of their own. -/
structure Sound (s : Sweep) : Prop where
  /-- No number occurs twice. -/
  nodup : (s.running.map Prod.fst).Nodup
  /-- The numbers are those of polls that have been begun. -/
  lt_begun : ∀ i ∈ s.running.map Prod.fst, i < s.begun

theorem poll?_eq (s : Sweep) (i : Nat) : s.poll? i = Entries.get? i s.running := by
  rw [poll?]
  induction s.running with
  | nil => rfl
  | cons e rest ih =>
      by_cases hi : e.1 = i
      · simp [Entries.get?, hi]
      · simp [Entries.get?, hi, ih]

theorem map_eq_set {running : List (Nat × Settle)} {i : Nat} {old : Settle}
    (hn : (running.map Prod.fst).Nodup) (hget : Entries.get? i running = some old) (c : Settle) :
    (running.map fun e => if e.1 = i then (i, c) else e) = Entries.set i c running := by
  induction running with
  | nil => cases hget
  | cons e rest ih =>
      simp only [List.map_cons, List.nodup_cons] at hn
      by_cases hi : e.1 = i
      · have hrest : (rest.map fun e => if e.1 = i then (i, c) else e) = rest := by
          refine (List.map_congr_left fun e' he' => ?_).trans (List.map_id rest)
          have hne : e'.1 ≠ i := by
            rintro rfl
            exact hn.1 (hi ▸ List.mem_map_of_mem he')
          simp [hne]
        simp [Entries.set, hi, hrest]
      · simp only [Entries.get?, hi, if_false] at hget
        simp [Entries.set, hi, ih hn.2 hget]

/-- A poll that goes on keeps its number. -/
theorem Sound.set {s : Sweep} (h : s.Sound) {i : Nat} {old : Settle}
    (hget : Entries.get? i s.running = some old) (c : Settle) :
    ({ s with running := Entries.set i c s.running } : Sweep).Sound where
  nodup := Entries.nodup_set i c s.running h.nodup
  lt_begun := fun j hj => by
    rcases (Entries.mem_keys_set i c s.running j).mp hj with rfl | hj
    · exact h.lt_begun _ (Entries.mem_keys_of_get? hget)
    · exact h.lt_begun j hj

/-- When a poll ends, the others keep their numbers. -/
theorem Sound.remove {s : Sweep} (h : s.Sound) (i settled : Nat) :
    (⟨s.waiting, s.running.filter fun e => decide (e.1 ≠ i), s.begun, settled⟩ : Sweep).Sound :=
  have hleft : (s.running.filter fun e => decide (e.1 ≠ i)).Sublist s.running :=
    List.filter_sublist
  ⟨h.nodup.sublist (hleft.map _), fun j hj => h.lt_begun j ((hleft.map _).subset hj)⟩

/-- Filling a sweep up begins polls with new numbers and nothing in hand. -/
theorem sound_fill (g : Gateway) (running : List (Nat × Settle)) (begun settled : Nat)
    (hs : List TxHash) (hn : (running.map Prod.fst).Nodup)
    (hlt : ∀ i ∈ running.map Prod.fst, i < begun) :
    (fill g running begun settled hs).Sound ∧
      (fill g running begun settled hs).held = Entries.tally Settle.held running := by
  induction hs generalizing running begun with
  | nil => exact ⟨⟨hn, hlt⟩, rfl⟩
  | cons h hs ih =>
      simp only [fill]
      split
      · exact ⟨⟨hn, hlt⟩, rfl⟩
      · split
        · rename_i c hc
          have hnew : Entries.tally Settle.held (running ++ [(begun, c)]) =
              Entries.tally Settle.held running := by
            simp [Entries.tally, Settle.held_of_start hc]
          rw [← hnew]
          apply ih
          · rw [List.map_append, List.nodup_append]
            refine ⟨hn, by simp, fun i hi j hj => ?_⟩
            have := hlt i hi
            simp only [List.map_cons, List.map_nil, List.mem_singleton] at hj
            omega
          · intro i hi
            rw [List.map_append, List.mem_append] at hi
            rcases hi with hi | hi
            · exact Nat.lt_succ_of_lt (hlt i hi)
            · simp only [List.map_cons, List.map_nil, List.mem_singleton] at hi
              omega
        · exact ih running (begun + 1) hn fun i hi => Nat.lt_succ_of_lt (hlt i hi)

/-- What the polls of a sweep have in hand stays in hand when the sweep goes on. -/
theorem proceed_spec (g : Gateway) (s : Sweep) (h : s.Sound) :
    match proceed g s with
    | .waiting s' => s'.Sound ∧ s'.held = s.held
    | .ended _ => s.held = 0 := by
  have hfill := sound_fill g s.running s.begun s.settled s.waiting h.nodup h.lt_begun
  simp only [proceed]
  split
  · rename_i s' hs'
    split at hs'
    · cases hs'
    · cases hs'
      exact hfill
  · rename_i hs'
    split at hs'
    · rename_i hempty
      rw [List.isEmpty_iff] at hempty
      rw [held, hempty] at hfill
      exact hfill.2.symm
    · cases hs'

theorem advances_start (g : Gateway) :
    Advances held Sound g none 0 (start g) := by
  have hspec := proceed_spec (g.measure (·.openTransactions g.watchlist.live.length))
    ⟨g.watchlist.live, [], 0, 0⟩ ⟨List.nodup_nil, by simp⟩
  simp only [start]
  split at hspec
  · rename_i s' hs'
    rw [hs']
    refine ⟨.keep (g.steady_measure _) no_give_back ?_, hspec.1⟩
    rw [hspec.2]
    exact le_rfl
  · rename_i hs'
    rw [hs']
    exact .keep (g.steady_measure _) no_give_back le_rfl

theorem advances (s : Sweep) (h : s.Sound) (p : Policy) (now : Timestamp) (g : Gateway) (i : Nat)
    (reply : Reply) :
    Advances held Sound g (s.turn? i reply) s.held (s.resume p now g i reply) := by
  cases hpoll : s.poll? i with
  | none =>
      simp only [resume, turn?, hpoll]
      exact ⟨.keep (.refl g) no_give_back le_rfl, h⟩
  | some poll =>
      have hget := hpoll
      rw [poll?_eq] at hget
      obtain ⟨rest, hall, hset, herase⟩ := Entries.exists_rest Settle.held h.nodup hget
      have hstep := poll.advances p now g reply
      simp only [resume, turn?, hpoll, Option.bind_some]
      rw [held, hall]
      split
      · rename_i g' poll' hwait
        rw [hwait] at hstep
        constructor
        · simp only [held, map_eq_set h.nodup hget, hset]
          exact hstep.1.frame rest
        · rw [map_eq_set h.nodup hget]
          exact h.set hget poll'
      · rename_i g' result hend
        rw [hend] at hstep
        have hmove := hstep.frame rest
        rw [zero_add] at hmove
        have hspec := proceed_spec g' _
          (h.remove i (if hasSettled result then s.settled + 1 else s.settled))
        simp only [held, herase] at hspec
        split at hspec
        · rename_i s' hs'
          rw [hs']
          refine ⟨?_, hspec.1⟩
          rw [held, hspec.2]
          exact hmove
        · rename_i hs'
          rw [hs']
          rw [hspec] at hmove ⊢
          exact hmove

end Sweep

end TxGateway
