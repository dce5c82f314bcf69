import TxGateway.Proofs.Dropping
import TxGateway.Proofs.Holders
import TxGateway.Proofs.TidyRuns

/-!
# What a tidy run does to the watchlist

In a tidy run the watchlist changes in three ways: the wait of a submission for its broadcast is
concluded, a poll takes a status in, or old records are forgotten. A poll that has found a
transaction dropped goes on with its nonce.
-/

namespace TxGateway

/-- What a step of a call that enters nothing does to the watchlist. If a poll has found a
transaction dropped, the call goes on with its nonce. -/
inductive Sees {σ α : Type} (takes : Watchlist.Observation → σ → Prop) (now : Timestamp)
    (g : Gateway) : Gateway × Progress σ α → Prop
  /-- The watchlist stays as it is. -/
  | same {g' : Gateway} {x : Progress σ α} (watchlist_eq : g'.watchlist = g.watchlist) :
      Sees takes now g (g', x)
  /-- A poll takes a status in. -/
  | poll {g' : Gateway} {x : Progress σ α} {h : TxHash} {status : Status}
      {o : Watchlist.Observation}
      (polled : g.watchlist.polled? h now status = some (g'.watchlist, o))
      (goesOn : o.changed = true → o.record.status = .dropped → ∃ c, x = .waiting c ∧ takes o c) :
      Sees takes now g (g', x)
  /-- Old records are forgotten. -/
  | purge {g' : Gateway} {x : Progress σ α} {cutoff : Timestamp}
      (purged : g'.watchlist = g.watchlist.purge cutoff) : Sees takes now g (g', x)

section

variable {σ τ α β : Type} {takes : Watchlist.Observation → σ → Prop}
  {takes' : Watchlist.Observation → τ → Prop} {now : Timestamp} {g g' : Gateway}

theorem Sees.of_steady {x : Progress σ α} (h : g.Steady g') : Sees takes now g (g', x) :=
  .same h.watchlist_eq

theorem Sees.map {x : Progress σ α} (h : Sees takes now g (g', x)) (f : σ → τ) (e : α → β)
    (htakes : ∀ o c, takes o c → takes' o (f c)) : Sees takes' now g (g', x.map f e) := by
  cases h with
  | same watchlist_eq => exact .same watchlist_eq
  | poll polled goesOn =>
      refine .poll polled fun hchanged hdropped => ?_
      obtain ⟨c, rfl, hc⟩ := goesOn hchanged hdropped
      exact ⟨f c, rfl, htakes _ c hc⟩
  | purge purged => exact .purge purged

end

theorem Settle.sees (c : Settle) (p : Policy) (now : Timestamp) (g : Gateway) (reply : Reply) :
    Sees (fun o c => c = .releasing o) now g (c.resume p now g reply) := by
  cases c with
  | polling poll =>
      simp only [resume]
      rcases poll.resume_cases p now g reply with
        ⟨c', hstep⟩ | ⟨g', e, hsteady, hstep⟩ | ⟨g', status, o, hpolled, -, hstep⟩
      · rw [hstep]
        exact .same rfl
      · rw [hstep]
        exact .of_steady hsteady
      · rw [hstep]
        refine .poll hpolled fun hchanged hdropped => ?_
        simp [afterPoll, hchanged, hdropped]
  | releasing o =>
      cases reply with
      | done => exact .of_steady (g.spares_giveBack _ _).toSteady
      | _ => exact .same rfl
  | expiring o =>
      cases reply with
      | done => exact .of_steady (g.spares_expire _).toSteady
      | _ => exact .same rfl
  | saving o => cases reply <;> exact .same rfl

/-- A sweep that goes on after one of its polls has asked further has that poll among its polls. -/
theorem Sweep.sees {s : Sweep} (h : s.Sound) (p : Policy) (now : Timestamp) (g : Gateway) (i : Nat)
    (reply : Reply) :
    Sees (fun o s => ∃ slot, s.poll? slot = some (.releasing o)) now g
      (s.resume p now g i reply) := by
  cases hpoll : s.poll? i with
  | none =>
      simp only [resume, hpoll]
      exact .same rfl
  | some poll =>
      have hstep := poll.sees p now g reply
      have hget := hpoll
      rw [poll?_eq] at hget
      simp only [resume, hpoll]
      split
      · rename_i g' poll' hwait
        rw [hwait] at hstep
        cases hstep with
        | same watchlist_eq => exact .same watchlist_eq
        | poll polled goesOn =>
            refine .poll polled fun hchanged hdropped => ?_
            obtain ⟨c, hc, rfl⟩ := goesOn hchanged hdropped
            cases hc
            refine ⟨_, rfl, i, ?_⟩
            rw [poll?_eq, map_eq_set h.nodup hget, Entries.get?_set, if_pos rfl]
        | purge purged => exact .purge purged
      · rename_i g' result hend
        rw [hend] at hstep
        cases hstep with
        | same watchlist_eq => exact .same watchlist_eq
        | poll polled goesOn =>
            refine .poll polled fun hchanged hdropped => ?_
            obtain ⟨c, hc, -⟩ := goesOn hchanged hdropped
            cases hc
        | purge purged => exact .purge purged

theorem ReconcileAll.steady_resume (c : ReconcileAll) (now : Timestamp) (g : Gateway)
    (reply : Reply) : g.Steady (c.resume now g reply).1 := by
  have hsteady := c.stage.steady_resume c.account now g reply
  simp only [resume]
  split <;> simpa [*] using hsteady

namespace Monitor

/-- One of the polls of the monitor is to give a nonce back. -/
def Takes (o : Watchlist.Observation) (m : Monitor) : Prop :=
  ∃ s, m.activity = .sweeping s ∧ ∃ slot, s.poll? slot = some (.releasing o)

theorem sees_act (m : Monitor) (p : Policy) (now : Timestamp) (g : Gateway) (i : Nat) :
    Sees Takes now g (m.act p now g i) := by
  have hacts := m.acts p now g i
  generalize m.act p now g i = x at hacts ⊢
  cases hacts with
  | forgets evicts =>
      rcases Gateway.purged_of_evict evicts with rfl | ⟨cutoff, rfl⟩
      · exact .same rfl
      · exact .purge rfl
  | sweeps | reconciles | breaksOff | waits => exact .same rfl

theorem sees {m : Monitor} (h : m.Sound) (p : Policy) (now : Timestamp) (g : Gateway) (i : Nat)
    (reply : Reply) : Sees Takes now g (m.resume p now g i reply) := by
  obtain ⟨refresh, reconcile, cleanup, activity⟩ := m
  cases activity with
  | idle =>
      cases reply with
      | done => exact sees_act _ p now g i
      | _ => exact .same rfl
  | sweeping s =>
      have hstep := Sweep.sees (h s rfl) p now g i reply
      simp only [resume]
      generalize s.resume p now g i reply = y at hstep
      cases hstep with
      | same watchlist_eq => exact .same watchlist_eq
      | poll polled goesOn =>
          refine .poll polled fun hchanged hdropped => ?_
          obtain ⟨s', rfl, hslot⟩ := goesOn hchanged hdropped
          exact ⟨_, rfl, s', rfl, hslot⟩
      | purge purged => exact .purge purged
  | reconciling r => exact .of_steady (r.steady_resume now g reply)

end Monitor

/-- What a submission does to the watchlist: it enters its transaction if that answer ends its wait
for the broadcast, and nothing otherwise. -/
theorem Submit.watchlist_resume (c : Submit) (p : Policy) (now : Timestamp) (g : Gateway)
    (slot : Nat) (reply : Reply) :
    (c.resume p now g reply).1.watchlist = g.watchlist ∨
      ∃ sent raw r, c.stage = .broadcasting sent raw ∧
        Submit.concluded? now sent slot reply = some r := by
  obtain ⟨request, stage⟩ := c
  have hobtain : ∀ request : Request,
      (toObtain request g).1.watchlist = g.watchlist := fun request =>
    (g.spares_ensureLedger request.account).watchlist_eq
  cases stage with
  | aging =>
      left
      cases reply with
      | done =>
          simp only [resume]
          split
          · rfl
          · exact hobtain request
      | _ => rfl
  | refreshing r =>
      left
      have hsteady := r.steady_resume request.account now g reply
      simp only [resume]
      split <;> simpa [*, fail] using hsteady.watchlist_eq
  | noting =>
      left
      cases reply with
      | done => exact hobtain request
      | failed e => exact hobtain request
      | _ => rfl
  | obtaining o =>
      left
      have hsteady := o.steady_resume request.account request.choice now g reply
      simp only [resume]
      split <;> simpa [*, fail] using hsteady.watchlist_eq
  | pricing n =>
      left
      cases reply with
      | price price =>
          simp only [resume]
          split <;> rfl
      | _ => rfl
  | signing n price => cases reply <;> exact .inl rfl
  | broadcasting sent raw =>
      cases reply with
      | accepted hash => exact .inr ⟨sent, raw, _, rfl, rfl⟩
      | unreachable detail => exact .inr ⟨sent, raw, _, rfl, rfl⟩
      | silence => exact .inr ⟨sent, raw, _, rfl, rfl⟩
      | _ => exact .inl rfl
  | returning n e =>
      left
      cases reply with
      | done =>
          have hsteady := (g.spares_giveBack request.account n).toSteady
          simp only [resume, fail]
          split <;> exact hsteady.watchlist_eq
      | _ => rfl
  | holding r e => cases reply <;> exact .inl rfl
  | saving submission r => cases reply <;> exact .inl rfl

namespace Call

/-- One of the polls of a call is to give a nonce back. -/
def Takes (o : Watchlist.Observation) (c : Call) : Prop :=
  ∃ slot, c.poll? slot = some (.releasing o)

/-- What a call of a tidy run other than a submission does to the watchlist. -/
theorem sees {c : Call} (hc : c.Tidy) (hsubmit : ∀ stage, c ≠ .submit stage) (p : Policy)
    (now : Timestamp) (g : Gateway) (slot : Nat) (reply : Reply) :
    Sees Takes now g (c.resume p now g slot reply) := by
  have hproceed : Sees Takes now g (c.proceed p now g slot reply) := by
    cases c with
    | obtain a choice stage => cases hc.2
    | poll stage => cases hc.2
    | recover stage => exact hc.1.elim
    | giveBack a n => exact .of_steady (g.spares_giveBack a n).toSteady
    | expire a => exact .of_steady (g.spares_expire a).toSteady
    | currentNonce a stage => exact .same rfl
    | submit stage => exact absurd rfl (hsubmit stage)
    | reconcile a stage => exact .of_steady (stage.steady_resume a now g reply)
    | reconcileAll stage => exact .of_steady (stage.steady_resume now g reply)
    | settle stage =>
        refine (stage.sees p now g reply).map settle _ fun o c hreleasing => ⟨0, ?_⟩
        rw [hreleasing]
        rfl
    | sweep stage =>
        exact (Sweep.sees hc.1 p now g slot reply).map sweep _ fun o c htakes => htakes
    | monitor stage =>
        refine (Monitor.sees hc.1 p now g slot reply).map monitor _ ?_
        rintro o ⟨refresh, reconcile, cleanup, activity⟩ ⟨s, rfl, htakes⟩
        exact htakes
    | chore stage =>
        cases stage with
        | releasing a n =>
            cases reply with
            | done => exact .of_steady (g.spares_giveBack a n).toSteady
            | _ => exact .same rfl
        | expiring a =>
            cases reply with
            | done => exact .of_steady (g.spares_expire a).toSteady
            | _ => exact .same rfl
        | saving r => cases reply <;> exact .same rfl
    | storeHealth => exact .same rfl
    | readiness store => cases store <;> exact .same rfl
  cases reply with
  | crashed crash => exact .same rfl
  | _ => exact hproceed

theorem watchlist_start (p : Policy) (now : Timestamp) (g : Gateway) (t : Task) :
    (start p now g t).1.watchlist = g.watchlist := by
  cases t with
  | obtain a choice => exact (g.spares_ensureLedger a).watchlist_eq
  | giveBack a n =>
      simp only [start]
      split <;> rfl
  | expire a =>
      simp only [start]
      split <;> rfl
  | _ => rfl

end Call

namespace System

variable {p : Policy} {s : System} {m : Moment}

/-- What a moment of a tidy run does to the watchlist. -/
inductive Seen (p : Policy) (s : System) (m : Moment) : Prop
  /-- The watchlist stays as it is. -/
  | same (watchlist_eq : (s.pass p m).gateway.watchlist = s.gateway.watchlist)
  /-- The wait of a submission for its broadcast is concluded. -/
  | conclude {c : Nat} {sent r : Record} (way : OnItsWay c sent s)
      (concludes : m.concludes? c sent = some r)
  /-- A poll takes a status in. If the transaction was dropped, it goes on with the nonce. -/
  | poll {h : TxHash} {now : Timestamp} {status : Status} {o : Watchlist.Observation}
      (polled : s.gateway.watchlist.polled? h now status =
        some ((s.pass p m).gateway.watchlist, o))
      (goesOn : o.changed = true → o.record.status = .dropped →
        ∃ i slot, (s.pass p m).Holds o.record.account o.record.nonce (.poll i slot))
  /-- Old records are forgotten. -/
  | purge {cutoff : Timestamp}
      (purged : (s.pass p m).gateway.watchlist = s.gateway.watchlist.purge cutoff)

/-- A dropped submission that waits for its broadcast concludes it; any other call that is dropped
leaves the watchlist as it is. -/
theorem watchlist_abandon (s : System) (i : Nat) :
    (s.abandon i).1.gateway.watchlist = s.gateway.watchlist ∨ ∃ sent, OnItsWay i sent s := by
  simp only [abandon]
  split
  · exact .inl rfl
  · rename_i c hget
    rw [gateway_enrollChores]
    cases c with
    | submit stage =>
        obtain ⟨request, stage⟩ := stage
        cases stage with
        | broadcasting sent raw => exact .inr ⟨sent, request, raw, hget⟩
        | _ => exact .inl rfl
    | _ => exact .inl rfl

theorem seen_reply_submit {now : Timestamp} {i slot : Nat} {reply : Reply} {stage : Submit}
    (hs : s.CallsAre Call.Sound) (hget : s.calls.get? i = some (.submit stage)) :
    Seen p s ⟨now, .event (.reply i slot reply)⟩ := by
  by_cases hway : ∃ sent, OnItsWay i sent s
  · obtain ⟨sent, request, raw, hbroadcasting⟩ := hway
    obtain rfl := Call.submit.inj (Option.some.inj (hget.symm.trans hbroadcasting))
    cases hr : Moment.concludes? ⟨now, .event (.reply i slot reply)⟩ i sent with
    | some r => exact .conclude ⟨request, raw, hget⟩ hr
    | none =>
        -- The submission waits on, or it is refused.
        simp only [Moment.concludes?, if_true] at hr
        refine .same ?_
        simp only [pass, step, System.reply, hget]
        cases reply with
        | accepted hash => cases hr
        | unreachable detail => cases hr
        | silence => cases hr
        | crashed crash =>
            simp only [Submit.concluded?, ite_eq_right_iff, reduceCtorEq, imp_false] at hr
            have hquiet : (Call.submit ⟨request, .broadcasting sent raw⟩).looksOutward slot =
                false := by
              simp [Call.looksOutward, Call.queries, Ne.symm hr]
            simp only [Call.resume, hquiet, Bool.false_eq_true, if_false]
        | _ => rfl
  · cases hx : (Call.submit stage).resume p now s.gateway slot reply with
    | mk g x =>
        by_cases hcrash : ∃ crash, x = .ended (.crashed crash)
        · obtain ⟨crash, rfl⟩ := hcrash
          have hdrops : Drops p i s ⟨now, .event (.reply i slot reply)⟩ :=
            .inr ⟨slot, reply, _, g, crash, rfl, hget, hx⟩
          refine .same ?_
          rw [hdrops.pass_eq hget (hs.each _ _ hget)]
          exact (s.watchlist_abandon i).resolve_right hway
        · have hsame : g.watchlist = s.gateway.watchlist := by
            cases reply with
            | crashed crash =>
                cases hx
                rfl
            | _ =>
                cases hx
                refine (stage.watchlist_resume p now s.gateway slot _).resolve_right ?_
                rintro ⟨sent, raw, r, hstage, -⟩
                obtain ⟨request, stage⟩ := stage
                cases hstage
                exact hway ⟨sent, request, raw, hget⟩
          refine .same ?_
          rw [← hsame]
          simp only [pass, step, System.reply, hget, hx]
          cases x with
          | waiting d => rfl
          | ended e =>
              cases e with
              | returned result => rfl
              | crashed crash => exact absurd ⟨crash, rfl⟩ hcrash

/-- A poll that goes on with a nonce holds it. -/
theorem holds_of_takes {i : Nat} {c : Call} {o : Watchlist.Observation}
    (hget : s.calls.get? i = some c) (h : c.Takes o) :
    ∃ slot, s.Holds o.record.account o.record.nonce (.poll i slot) := by
  obtain ⟨slot, hslot⟩ := h
  exact ⟨slot, c, o, hget, hslot, rfl, rfl⟩

theorem seen_reply {now : Timestamp} {i slot : Nat} {reply : Reply} {c : Call}
    (hs : s.Tidy) (hget : s.calls.get? i = some c)
    (hsubmit : ∀ stage, c ≠ .submit stage) : Seen p s ⟨now, .event (.reply i slot reply)⟩ := by
  have hstep := c.sees (hs.each i c hget) hsubmit p now s.gateway slot reply
  cases hx : c.resume p now s.gateway slot reply with
  | mk g x =>
      rw [hx] at hstep
      have hpass : (s.pass p ⟨now, .event (.reply i slot reply)⟩).gateway.watchlist =
          g.watchlist := by
        simp only [pass, step, System.reply, hget, hx]
        cases x with
        | waiting d => rfl
        | ended e =>
            cases e with
            | returned result => rfl
            | crashed crash =>
                refine (({ s with gateway := g } : System).watchlist_abandon i).resolve_right ?_
                rintro ⟨sent, request, raw, hway⟩
                exact hsubmit _ (Option.some.inj (hget.symm.trans hway))
      cases hstep with
      | same watchlist_eq => exact .same (hpass.trans watchlist_eq)
      | poll polled goesOn =>
          rw [← hpass] at polled
          refine .poll polled fun hchanged hdropped => ?_
          obtain ⟨d, rfl, htakes⟩ := goesOn hchanged hdropped
          refine ⟨i, holds_of_takes ?_ htakes⟩
          simp only [pass, step, System.reply, hget, hx, Table.get?_set_self]
      | purge purged => exact .purge (hpass.trans purged)

/-- What a moment of a tidy run does to the watchlist. -/
theorem seen_pass (hs : s.Tidy) : Seen p s m := by
  have hsound : s.CallsAre Call.Sound :=
    ⟨fun i c hget => Call.sound_of_orderly (hs.each i c hget).1, hs.lt_opened⟩
  obtain ⟨now, what⟩ := m
  cases what with
  | event e =>
      cases e with
      | start t =>
          refine .same ?_
          rw [← Call.watchlist_start p now s.gateway t]
          simp only [pass, step, start]
          split <;> simp [*, enroll]
      | abandon i =>
          rcases s.watchlist_abandon i with hsame | ⟨sent, hway⟩
          · exact .same hsame
          · exact .conclude hway (if_pos rfl)
      | reply i slot reply =>
          cases hget : s.calls.get? i with
          | none =>
              refine .same ?_
              simp only [pass, step, System.reply, hget]
          | some c =>
              by_cases hsubmit : ∃ stage, c = .submit stage
              · obtain ⟨stage, rfl⟩ := hsubmit
                exact seen_reply_submit hsound hget
              · exact seen_reply hs hget fun stage heq => hsubmit ⟨stage, heq⟩
  | evict olderThan =>
      cases hevict : s.gateway.evict now olderThan with
      | error crash => exact .same (by simp only [pass, hevict])
      | ok x =>
          obtain ⟨g, n⟩ := x
          have hpass : (s.pass p ⟨now, .evict olderThan⟩).gateway = g := by
            simp only [pass, hevict]
          rcases Gateway.purged_of_evict hevict with rfl | ⟨cutoff, rfl⟩
          · exact .same (congrArg Gateway.watchlist hpass)
          · exact .purge (congrArg Gateway.watchlist hpass)
  | close => exact .same rfl

end System

end TxGateway
