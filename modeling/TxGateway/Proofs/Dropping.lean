import TxGateway.Proofs.Whereabouts

/-!
# What a dropped submission leaves

A submission can be dropped wherever it waits, and it breaks off by itself when a price leaves its
range; both come to the same. A submission that has a nonce and has sent nothing leaves a chore that
gives the nonce back. One that waits for its broadcast has its transaction watched and leaves a
chore that stores the record. Any other submission leaves nothing.
-/

namespace TxGateway

/-- A submission that has a nonce and has sent nothing. -/
def Submit.IsUnsent (c : Submit) (n : Nat) : Prop :=
  c.stage = .pricing n ∨ ∃ price, c.stage = .signing n price

/-- Such a submission ends only by breaking off. -/
theorem Submit.IsUnsent.crashed {c : Submit} {n : Nat} (hc : c.IsUnsent n) {p : Policy}
    {now : Timestamp} {g g' : Gateway} {slot : Nat} {reply : Reply} {e : Ending Outcome}
    (h : (Call.submit c).resume p now g slot reply = (g', .ended e)) :
    ∃ crash, e = .crashed crash := by
  obtain ⟨request, stage⟩ := c
  cases reply with
  | crashed crash =>
      simp only [Call.resume] at h
      split at h
      · cases h
        exact ⟨crash, rfl⟩
      · cases h
  | price price =>
      rcases hc with rfl | ⟨_, rfl⟩
      · simp only [Call.resume, Call.proceed, resume] at h
        split at h
        · cases h
        · cases h
          exact ⟨_, rfl⟩
      · cases h
  | _ => rcases hc with rfl | ⟨_, rfl⟩ <;> cases h

namespace Call

/-- Only a task to submit something sets a submission going. -/
theorem submit_of_start {p : Policy} {now : Timestamp} {g : Gateway} {t : Task} {stage : Submit}
    (h : (start p now g t).2 = .waiting (.submit stage)) :
    ∃ request, t = .submit request ∧ stage = Submit.start request g := by
  cases t with
  | submit request =>
      cases h
      exact ⟨request, rfl, rfl⟩
  | giveBack a n =>
      simp only [start] at h
      split at h <;> cases h
  | expire a =>
      simp only [start] at h
      split at h <;> cases h
  | poll k => cases (Progress.of_map_eq_waiting h).choose_spec
  | settle k => cases (Progress.of_map_eq_waiting h).choose_spec
  | reconcileAll => cases (Progress.of_map_eq_waiting h).choose_spec
  | sweep => cases (Progress.of_map_eq_waiting h).choose_spec
  | monitor => cases (Progress.of_map_eq_waiting h).choose_spec
  | _ => cases h

/-- A call that goes on as a submission is one. -/
theorem submit_of_resume {p : Policy} {now : Timestamp} {g : Gateway} {c : Call} {slot : Nat}
    {reply : Reply} {stage : Submit}
    (h : (c.resume p now g slot reply).2 = .waiting (.submit stage)) :
    ∃ before, c = .submit before ∧
      (stage = before ∨ (before.resume p now g reply).2 = .waiting stage) := by
  have hproceed : (c.proceed p now g slot reply).2 = .waiting (.submit stage) →
      ∃ before, c = .submit before ∧
        (stage = before ∨ (before.resume p now g reply).2 = .waiting stage) := by
    intro h
    cases c with
    | submit before =>
        refine ⟨before, rfl, .inr ?_⟩
        simp only [proceed] at h
        cases hx : (before.resume p now g reply).2 with
        | waiting d =>
            rw [hx] at h
            cases h
            rfl
        | ended e =>
            rw [hx] at h
            cases h
    | giveBack a n => cases h
    | expire a => cases h
    | storeHealth => cases h
    | readiness store => cases store <;> cases h
    | _ =>
        simp only [proceed] at h
        cases (Progress.of_map_eq_waiting h).choose_spec
  cases reply with
  | crashed crash =>
      simp only [resume] at h
      split at h
      · cases h
      · cases h
        exact ⟨stage, rfl, .inl rfl⟩
  | _ => exact hproceed h

end Call

namespace System

variable {p : Policy} {s : System} {m : Moment} {c n : Nat} {a : Address} {sent : Record}

/-- A call is dropped at a moment, or it breaks off. -/
def Drops (p : Policy) (c : Nat) (s : System) (m : Moment) : Prop :=
  m.what = .event (.abandon c) ∨ ∃ slot r d g crash, m.what = .event (.reply c slot r) ∧
    s.calls.get? c = some d ∧ d.resume p m.now s.gateway slot r = (g, .ended (.crashed crash))

/-- A call that breaks off has changed nothing, so it is dropped where it stood. -/
theorem Drops.pass_eq (h : Drops p c s m) {d : Call} (hget : s.calls.get? c = some d)
    (hd : d.Orderly) : s.pass p m = (s.abandon c).1 := by
  obtain ⟨now, what⟩ := m
  rcases h with rfl | ⟨slot, r, d', g, crash, rfl, hd', hcrash⟩
  · rfl
  · obtain rfl := Option.some.inj (hget.symm.trans hd')
    have hstep := Call.proceeds_resume p now s.gateway d hd slot r
    rw [hcrash] at hstep
    obtain ⟨rfl, -⟩ := hstep
    simp only [pass, step, reply, hget, hcrash]

/-- A call is dropped at a moment, or it stays as it is, or it goes on with an answer. -/
theorem get?_pass_cases {d : Call} (hget : s.calls.get? c = some d) (hc : c < s.opened)
    (p : Policy) (m : Moment) :
    (Drops p c s m ∧ (m.what = .event (.abandon c) ∨
        ∃ slot crash, m.what = .event (.reply c slot (.crashed crash)))) ∨
      (s.pass p m).calls.get? c = some d ∨
      ∃ slot r, m.what = .event (.reply c slot r) ∧ (∀ crash, r ≠ .crashed crash) ∧
        s.turn? m = d.turn? slot r ∧
        (s.pass p m).calls.get? c =
          match (d.proceed p m.now s.gateway slot r).2 with
          | .waiting d' => some d'
          | .ended _ => none := by
  by_cases hm : m.call? = some c
  · rcases get?_pass_of_call (p := p) hc hget hm with
      ⟨-, hwhat | ⟨slot, crash, hwhat, hout⟩⟩ | hstay | ⟨slot, r, hwhat, hcrash, hnext⟩
    · exact .inl ⟨.inl hwhat, .inl hwhat⟩
    · have hends : d.resume p m.now s.gateway slot (.crashed crash) =
          (s.gateway, .ended (.crashed crash)) := by
        simp only [Call.resume, hout, if_true]
      exact .inl ⟨.inr ⟨slot, _, d, _, crash, hwhat, hget, hends⟩, .inr ⟨slot, crash, hwhat⟩⟩
    · exact .inr (.inl (hstay.symm.trans hget))
    · refine .inr (.inr ⟨slot, r, hwhat, hcrash, ?_, hnext⟩)
      simp only [turn?, hwhat, hget, Option.bind_some]
  · exact .inr (.inl ((get?_pass_of_ne hc p hm).trans hget))

/-- A submission with a nonce that has sent nothing, dropped: its place is taken by a chore. -/
theorem abandon_of_isUnsent {stage : Submit} (hget : s.calls.get? c = some (.submit stage))
    (hn : stage.IsUnsent n) :
    (s.abandon c).1 = ({ s with calls := s.calls.erase c } : System).enroll
      (.chore (.releasing stage.request.account n)) := by
  obtain ⟨request, stage⟩ := stage
  rcases hn with rfl | ⟨price, rfl⟩ <;>
    simp [abandon, hget, Call.abandon, Submit.abandon, enrollChores]

/-- A submission without a nonce, or that is past its broadcast, dropped: only its place is
empty. -/
theorem abandon_of_bare {stage : Submit} (hget : s.calls.get? c = some (.submit stage))
    (hn : ∀ n, ¬ stage.IsUnsent n) (hway : ∀ sent raw, stage.stage ≠ .broadcasting sent raw) :
    (s.abandon c).1 = { s with calls := s.calls.erase c } := by
  obtain ⟨request, stage⟩ := stage
  cases stage with
  | pricing n => exact absurd (.inl rfl) (hn n)
  | signing n price => exact absurd (.inr ⟨price, rfl⟩) (hn n)
  | broadcasting sent raw => exact absurd rfl (hway sent raw)
  | _ => simp [abandon, hget, Call.abandon, Submit.abandon, enrollChores]

theorem Unsent.exists_stage (h : Unsent c a n s) : ∃ stage : Submit,
    s.calls.get? c = some (.submit stage) ∧ stage.IsUnsent n ∧ stage.request.account = a := by
  obtain ⟨request, rfl, hget | ⟨price, hget⟩⟩ := h
  · exact ⟨_, hget, .inl rfl, rfl⟩
  · exact ⟨_, hget, .inr ⟨price, rfl⟩, rfl⟩

/-- A submission that has a nonce and is at its end without having called for its broadcast has been
dropped. -/
theorem Unsent.drops (h : Unsent c a n s) (hc : c < s.opened) (hgone : Gone c (s.pass p m)) :
    Drops p c s m := by
  obtain ⟨stage, hget, hn, -⟩ := h.exists_stage
  by_cases hm : m.call? = some c
  · obtain ⟨now, what⟩ := m
    cases what with
    | event e =>
        cases e with
        | start t => cases hm
        | abandon _ =>
            cases hm
            exact .inl rfl
        | reply _ slot r =>
            cases hm
            have hnext := get?_reply hc p now c slot r
            rw [if_pos rfl, hget, Option.bind_some] at hnext
            cases hx : (Call.submit stage).resume p now s.gateway slot r with
            | mk g x =>
                cases x with
                | waiting d =>
                    rw [hx] at hnext
                    cases hgone.symm.trans hnext
                | ended e =>
                    obtain ⟨crash, rfl⟩ := hn.crashed hx
                    exact .inr ⟨slot, r, _, g, crash, rfl, hget, hx⟩
    | evict olderThan => cases hm
    | close => cases hm
  · rw [Gone, get?_pass_of_ne hc p hm, hget] at hgone
    cases hgone

/-- What a dropped submission leaves of a nonce that it had and has not sent: a chore that is to
give it back. -/
theorem Unsent.leaves_chore (h : Unsent c a n s) (hs : s.CallsAre Call.Sound)
    (hdrops : Drops p c s m) :
    (s.pass p m).calls.get? s.opened = some (.chore (.releasing a n)) := by
  obtain ⟨stage, hget, hn, rfl⟩ := h.exists_stage
  rw [hdrops.pass_eq hget (hs.each c _ hget), abandon_of_isUnsent hget hn]
  exact Table.get?_set_self _ _ _

end System

end TxGateway
