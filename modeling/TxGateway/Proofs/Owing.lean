import TxGateway.Proofs.Reserving
import TxGateway.Proofs.Seeing
import TxGateway.Proofs.Succession

/-!
# What calls owe to the store

A record changes in one step and is stored in a later one. In between the call that has changed it
owes it to the store, or the chore that a dropped submission has left does. In a tidy run nothing
changes in the watchlist without somebody owing it from then on, and a debt ends only when a record
of that hash is written, or when the call that owes it is dropped.
-/

namespace TxGateway

/-- Two records tell the same of a transaction: whose it is, which nonce it uses, and what has
become of it. -/
structure Record.Agrees (r r' : Record) : Prop where
  /-- The account is the same. -/
  account_eq : r'.account = r.account
  /-- The nonce is the same. -/
  nonce_eq : r'.nonce = r.nonce
  /-- The status is the same, with the receipt in it. -/
  status_eq : r'.status = r.status

theorem Record.Agrees.refl (r : Record) : r.Agrees r := ⟨rfl, rfl, rfl⟩

theorem Record.Agrees.trans {r r' r'' : Record} (h : r.Agrees r') (h' : r'.Agrees r'') :
    r.Agrees r'' :=
  ⟨h'.account_eq.trans h.account_eq, h'.nonce_eq.trans h.nonce_eq, h'.status_eq.trans h.status_eq⟩

/-- The record that a question asks the store to write. -/
def Query.record? : Query → Option Record
  | .saveRecord r => some r
  | _ => none

/-- The record that a poll on behalf of a client owes to the store. -/
def Settle.owed? : Settle → Option Record
  | polling _ => none
  | releasing o | expiring o | saving o => some o.record

/-- The record that a call owes to the store under a number; a call that asks one question at a time
owes it under any. -/
def Call.owed? (slot : Nat) : Call → Option Record
  | submit c => c.query.record?
  | chore c => c.query.record?
  | settle c => c.owed?
  | sweep s => (s.poll? slot).bind Settle.owed?
  | monitor m => match m.activity with
    | .sweeping s => (s.poll? slot).bind Settle.owed?
    | _ => none
  | _ => none

/-- The record that is written when a call hears under a number that it is done. -/
def Call.write? (slot : Nat) : Call → Option Record
  | submit c => c.query.record?
  | chore c => c.query.record?
  | settle c => c.query.record?
  | sweep s => (s.poll? slot).bind (·.query.record?)
  | monitor m => match m.activity with
    | .sweeping s => (s.poll? slot).bind (·.query.record?)
    | _ => none
  | _ => none

/-- A call owes the store a record of a transaction. -/
def Call.Owes (h : TxHash) (c : Call) : Prop := ∃ slot r, c.owed? slot = some r ∧ r.hash = h

/-- What becomes of a debt when its call hears something under a number: the record is written, or
the store refuses it, or it is owed as before. -/
inductive Pays {σ α : Type} (write? : Option Record) (owes : σ → Prop) (reply : Reply) (r : Record)
    (x : Progress σ α) : Prop
  /-- The record is written. -/
  | written (write_eq : write? = some r) (reply_eq : reply = .done)
  /-- The store refuses the record. -/
  | refused (write_eq : write? = some r) (e : Failure) (reply_eq : reply = .failed e)
  /-- The record is owed as before. -/
  | owed (c : σ) (waits : x = .waiting c) (owes : owes c)

theorem Pays.map {σ τ α β : Type} {reply : Reply} {r : Record} {write? : Option Record}
    {owes : σ → Prop} {owes' : τ → Prop} {x : Progress σ α} (h : Pays write? owes reply r x)
    (f : σ → τ) (e : α → β) (howes : ∀ c, owes c → owes' (f c)) :
    Pays write? owes' reply r (x.map f e) := by
  cases h with
  | written write_eq reply_eq => exact .written write_eq reply_eq
  | refused write_eq failure reply_eq => exact .refused write_eq failure reply_eq
  | owed c waits owes =>
      subst waits
      exact .owed (f c) rfl (howes c owes)

section

variable {r : Record} {slot : Nat} (p : Policy) (now : Timestamp) (g : Gateway) (reply : Reply)

theorem Submit.pays {c : Submit} (hc : c.query.record? = some r) :
    Pays c.query.record? (fun d => d.query.record? = some r) reply r
      (c.resume p now g reply).2 := by
  obtain ⟨request, stage⟩ := c
  have hwaits : ∀ (a : Address) (o : Reconcile), (o.query a).record? = none := by
    intro a o
    cases o <;> rfl
  cases stage with
  | holding record e =>
      cases reply with
      | done => exact .written hc rfl
      | failed e => exact .refused hc e rfl
      | _ => exact .owed _ rfl hc
  | saving submission record =>
      cases reply with
      | done => exact .written hc rfl
      | failed e => exact .refused hc e rfl
      | _ => exact .owed _ rfl hc
  | refreshing o => cases (hwaits request.account o).symm.trans hc
  | obtaining o =>
      cases o with
      | turn => cases hc
      | seeding o => cases (hwaits request.account o).symm.trans hc
  | _ => cases hc

theorem Chore.pays {c : Chore} (hc : c.query.record? = some r) :
    Pays c.query.record? (fun d => d.query.record? = some r) reply r (c.resume g reply).2 := by
  cases c with
  | saving record =>
      cases reply with
      | done => exact .written hc rfl
      | failed e => exact .refused hc e rfl
      | _ => exact .owed _ rfl hc
  | _ => cases hc

theorem Settle.pays {c : Settle} (hc : c.owed? = some r) :
    Pays c.query.record? (fun d => d.owed? = some r) reply r (c.resume p now g reply).2 := by
  cases c with
  | polling poll => cases hc
  | releasing o => cases reply <;> exact .owed _ rfl hc
  | expiring o => cases reply <;> exact .owed _ rfl hc
  | saving o =>
      cases reply with
      | done => exact .written hc rfl
      | failed e => exact .refused hc e rfl
      | _ => exact .owed _ rfl hc

theorem Sweep.pays {s : Sweep} (hs : s.Sound) (hr : (s.poll? slot).bind Settle.owed? = some r)
    (i : Nat) :
    Pays ((s.poll? i).bind (·.query.record?)) (fun s => (s.poll? slot).bind Settle.owed? = some r)
      reply r (s.resume p now g i reply).2 := by
  obtain ⟨c, hpoll, hc⟩ := Option.bind_eq_some_iff.mp hr
  by_cases hi : i = slot
  · subst hi
    rw [hpoll, Option.bind_some]
    cases c.pays p now g reply hc with
    | written write_eq reply_eq => exact .written write_eq reply_eq
    | refused write_eq e reply_eq => exact .refused write_eq e reply_eq
    | owed d waits owes =>
        obtain ⟨s', hstep, hpoll'⟩ := poll?_resume_self hs hpoll waits
        exact .owed s' hstep (by rw [hpoll']; exact owes)
  · obtain ⟨s', hstep, hpoll'⟩ := poll?_resume_of_ne hs hpoll p now g hi reply
    exact .owed s' hstep (by rw [hpoll']; exact hc)

/-- A call owes a record until it hears that it is written, or that it cannot be. -/
theorem Call.pays {c : Call} (hc : c.Orderly) (hr : c.owed? slot = some r) (i : Nat) :
    Pays (c.write? i) (fun d => d.owed? slot = some r) reply r (c.proceed p now g i reply).2 := by
  cases c with
  | submit c => exact (c.pays p now g reply hr).map submit _ fun d hd => hd
  | chore c => exact (c.pays g reply hr).map chore _ fun d hd => hd
  | settle c => exact (c.pays p now g reply hr).map settle _ fun d hd => hd
  | sweep s => exact (Sweep.pays p now g reply hc hr i).map sweep _ fun s hs => hs
  | monitor m =>
      obtain ⟨refresh, reconcile, cleanup, activity⟩ := m
      cases activity with
      | sweeping s =>
          cases Sweep.pays p now g reply (hc s rfl) hr i with
          | written write_eq reply_eq => exact .written write_eq reply_eq
          | refused write_eq e reply_eq => exact .refused write_eq e reply_eq
          | owed s' waits owes =>
              refine .owed (.monitor ⟨refresh, reconcile, cleanup, .sweeping s'⟩) ?_ owes
              simp only [proceed, Monitor.resume, waits]
              rfl
      | _ => cases hr
  | _ => cases hr

end

/-- After a step of a call every watched record tells what it has told before, or the call goes on
and owes the record to the store. -/
def Backs {σ α : Type} (owes : TxHash → σ → Prop) (g : Gateway) (y : Gateway × Progress σ α) :
    Prop :=
  ∀ h r', y.1.watchlist.lookup? h = some r' →
    (∃ r, g.watchlist.lookup? h = some r ∧ r.Agrees r') ∨ ∃ c, y.2 = .waiting c ∧ owes h c

section

variable {σ τ α β : Type} {owes : TxHash → σ → Prop} {owes' : TxHash → τ → Prop} {g g' : Gateway}
  {x : Progress σ α}

theorem Backs.of_watchlist_eq (h : g'.watchlist = g.watchlist) : Backs owes g (g', x) := by
  intro k r' hr'
  change g'.watchlist.lookup? k = some r' at hr'
  rw [h] at hr'
  exact .inl ⟨r', hr', .refl r'⟩

theorem Backs.of_purge {cutoff : Timestamp} (h : g'.watchlist = g.watchlist.purge cutoff) :
    Backs owes g (g', x) := by
  intro k r' hr'
  change g'.watchlist.lookup? k = some r' at hr'
  rw [h, Watchlist.lookup?_purge, Option.filter_eq_some_iff] at hr'
  exact .inl ⟨r', hr'.1, .refl r'⟩

theorem Backs.of_enter {r : Record} {c : σ} (h : g.watchlist.enter r = .ok g'.watchlist)
    (hc : owes r.hash c) : Backs owes g (g', .waiting (α := α) c) := by
  intro k r' hr'
  change g'.watchlist.lookup? k = some r' at hr'
  rw [(Watchlist.lookup?_of_enter h).2] at hr'
  split at hr'
  · rename_i hk
    exact .inr ⟨c, rfl, hk ▸ hc⟩
  · exact .inl ⟨r', hr', .refl r'⟩

theorem Backs.map (h : Backs owes g (g', x)) (f : σ → τ) (e : α → β)
    (howes : ∀ k c, owes k c → owes' k (f c)) : Backs owes' g (g', x.map f e) := by
  intro k r' hr'
  rcases h k r' hr' with hsame | ⟨c, rfl, hc⟩
  · exact .inl hsame
  · exact .inr ⟨f c, rfl, howes k c hc⟩

end

namespace Watchlist

variable {w w' : Watchlist} {h : TxHash} {now : Timestamp} {status : Status} {o : Observation}

/-- A poll that does not make its record final leaves it telling what it has told before. -/
theorem agrees_of_polled (hp : w.polled? h now status = some (w', o)) (hsame : o.changed = false) :
    ∃ r, w.lookup? h = some r ∧ r.Agrees o.record := by
  obtain ⟨r, hr, -, -, hrecord, hchanged⟩ := polled?_eq_some hp
  refine ⟨r, hr, ⟨by rw [hrecord], by rw [hrecord], ?_⟩⟩
  have hstatus : o.record.status = if r.isLive then status else r.status := by rw [hrecord]
  rw [hsame] at hchanged
  cases hlive : r.isLive with
  | false => simpa [hlive] using hstatus
  | true =>
      have hopen : status = .pending := by
        rw [hlive, Bool.true_and] at hchanged
        cases status <;> first | rfl | cases hchanged
      rw [hstatus, hlive, if_pos rfl, hopen, Record.status_of_isLive hlive]

end Watchlist

section

variable (p : Policy) (now : Timestamp) {g : Gateway} (reply : Reply)

theorem Settle.backs (c : Settle) (hk : g.watchlist.Keyed) :
    Backs (fun h c => ∃ r, c.owed? = some r ∧ r.hash = h) g (c.resume p now g reply) := by
  cases c with
  | polling poll =>
      simp only [resume]
      rcases poll.resume_cases p now g reply with
        ⟨c', hstep⟩ | ⟨g', e, hsteady, hstep⟩ | ⟨g', status, o, hpolled, -, hstep⟩
      · rw [hstep]
        exact .of_watchlist_eq rfl
      · rw [hstep]
        exact .of_watchlist_eq hsteady.watchlist_eq
      · rw [hstep]
        intro k r' hr'
        change g'.watchlist.lookup? k = some r' at hr'
        rw [Watchlist.lookup?_of_polled hpolled] at hr'
        split at hr'
        · rename_i hk'
          cases hr'
          subst hk'
          cases hchanged : o.changed with
          | false => exact .inl (Watchlist.agrees_of_polled hpolled hchanged)
          | true =>
              have hhash : o.record.hash = poll.hash := by
                obtain ⟨r, hr, -, -, hrecord, -⟩ := Watchlist.polled?_eq_some hpolled
                rw [hrecord]
                exact hk _ r hr
              right
              simp only [afterPoll, hchanged, Bool.not_true, Bool.false_eq_true, if_false]
              split
              · exact ⟨_, rfl, o.record, rfl, hhash⟩
              · exact ⟨_, rfl, o.record, rfl, hhash⟩
        · exact .inl ⟨r', hr', .refl r'⟩
  | releasing o =>
      cases reply with
      | done => exact .of_watchlist_eq (g.spares_giveBack _ _).watchlist_eq
      | _ => exact .of_watchlist_eq rfl
  | expiring o =>
      cases reply with
      | done => exact .of_watchlist_eq (g.spares_expire _).watchlist_eq
      | _ => exact .of_watchlist_eq rfl
  | saving o => cases reply <;> exact .of_watchlist_eq rfl

theorem Sweep.backs {s : Sweep} (hs : s.Sound) (hk : g.watchlist.Keyed) (i : Nat) :
    Backs (fun h s => ∃ slot r, (s.poll? slot).bind Settle.owed? = some r ∧ r.hash = h) g
      (s.resume p now g i reply) := by
  cases hpoll : s.poll? i with
  | none =>
      simp only [resume, hpoll]
      exact .of_watchlist_eq rfl
  | some c =>
      have hstep := c.backs p now reply hk
      intro h r' hr'
      have hgateway : (s.resume p now g i reply).1 = (c.resume p now g reply).1 := by
        simp only [resume, hpoll]
        split <;> simp [*]
      rw [hgateway] at hr'
      rcases hstep h r' hr' with hsame | ⟨d, hd, r, hr, rfl⟩
      · exact .inl hsame
      · obtain ⟨s', hs', hpoll'⟩ := poll?_resume_self hs hpoll hd
        refine .inr ⟨s', hs', i, r, ?_, rfl⟩
        rw [hpoll']
        exact hr

/-- A submission that goes on with its transaction watched stores its record. -/
theorem Submit.backs (c : Submit) :
    Backs (fun h c => ∃ r, c.query.record? = some r ∧ r.hash = h) g (c.resume p now g reply) := by
  obtain ⟨request, stage⟩ := c
  rcases watchlist_resume ⟨request, stage⟩ p now g 0 reply with
    hsame | ⟨sent, raw, r, hstage, hr⟩
  · exact .of_watchlist_eq hsame
  · cases hstage
    have hhold : ∀ e, Backs (fun h (c : Submit) => ∃ r, c.query.record? = some r ∧ r.hash = h) g
        (hold g ⟨request, .broadcasting sent raw⟩ sent e) := by
      intro e
      rcases g.watch_cases sent with ⟨g', hwatch, hentered, -⟩ | ⟨g', _, hwatch, -, hsteady⟩
      · simp only [hold, hwatch]
        exact .of_enter hentered ⟨sent, rfl, rfl⟩
      · simp only [hold, hwatch]
        exact .of_watchlist_eq hsteady.watchlist_eq
    cases reply with
    | accepted hash =>
        simp only [resume, accept]
        rcases g.watch_cases (.fresh now ⟨sent.id, sent.account, sent.nonce, hash⟩) with
          ⟨g', hwatch, hentered, -⟩ | ⟨g', _, hwatch, -, hsteady⟩
        · simp only [hwatch]
          exact .of_enter hentered ⟨_, rfl, rfl⟩
        · simp only [hwatch]
          exact .of_watchlist_eq hsteady.watchlist_eq
    | unreachable detail => exact hhold _
    | silence => exact hhold _
    | crashed crash => exact .of_watchlist_eq rfl
    | _ => cases hr

theorem Monitor.backs_act (m : Monitor) (i : Nat) :
    Backs (fun h m => (Call.monitor m).Owes h) g (m.act p now g i) := by
  have hacts := m.acts p now g i
  generalize m.act p now g i = x at hacts ⊢
  cases hacts with
  | forgets evicts =>
      rcases Gateway.purged_of_evict evicts with rfl | ⟨cutoff, rfl⟩
      · exact .of_watchlist_eq rfl
      · exact .of_purge rfl
  | sweeps | reconciles | breaksOff | waits => exact .of_watchlist_eq rfl

theorem Monitor.backs {m : Monitor} (hm : m.Sound) (hk : g.watchlist.Keyed) (i : Nat) :
    Backs (fun h m => (Call.monitor m).Owes h) g (m.resume p now g i reply) := by
  obtain ⟨refresh, reconcile, cleanup, activity⟩ := m
  cases activity with
  | idle =>
      cases reply with
      | done => exact backs_act p now _ i
      | _ => exact .of_watchlist_eq rfl
  | sweeping s =>
      intro h r' hr'
      rcases Sweep.backs p now reply (hm s rfl) hk i h r' hr' with hsame | ⟨s', hs', howes⟩
      · exact .inl hsame
      · refine .inr ⟨⟨refresh, reconcile, cleanup, .sweeping s'⟩, ?_, howes⟩
        simp only [resume, hs']
        rfl
  | reconciling r => exact .of_watchlist_eq (r.steady_resume now g reply).watchlist_eq

namespace Call

/-- Whatever a call of a tidy run changes in the watchlist it owes to the store. -/
theorem backs {c : Call} (hc : c.Tidy) (hk : g.watchlist.Keyed) (i : Nat) :
    Backs Owes g (c.resume p now g i reply) := by
  have hproceed : Backs Owes g (c.proceed p now g i reply) := by
    cases c with
    | submit c => exact (c.backs p now reply).map submit _ fun h d hd => ⟨0, hd⟩
    | settle c => exact (c.backs p now reply hk).map settle _ fun h d hd => ⟨0, hd⟩
    | sweep s => exact (Sweep.backs p now reply hc.1 hk i).map sweep _ fun h d hd => hd
    | monitor m => exact (Monitor.backs p now reply hc.1 hk i).map monitor _ fun h d hd => hd
    | obtain a choice stage => cases hc.2
    | poll stage => cases hc.2
    | recover stage => exact hc.1.elim
    | giveBack a n => exact .of_watchlist_eq (g.spares_giveBack a n).watchlist_eq
    | expire a => exact .of_watchlist_eq (g.spares_expire a).watchlist_eq
    | currentNonce a stage => exact .of_watchlist_eq rfl
    | reconcile a stage => exact .of_watchlist_eq (stage.steady_resume a now g reply).watchlist_eq
    | reconcileAll stage => exact .of_watchlist_eq (stage.steady_resume now g reply).watchlist_eq
    | chore c =>
        cases c with
        | releasing a n =>
            cases reply with
            | done => exact .of_watchlist_eq (g.spares_giveBack a n).watchlist_eq
            | _ => exact .of_watchlist_eq rfl
        | expiring a =>
            cases reply with
            | done => exact .of_watchlist_eq (g.spares_expire a).watchlist_eq
            | _ => exact .of_watchlist_eq rfl
        | saving r => cases reply <;> exact .of_watchlist_eq rfl
    | storeHealth => exact .of_watchlist_eq rfl
    | readiness store => cases store <;> exact .of_watchlist_eq rfl
  cases reply with
  | crashed crash => exact .of_watchlist_eq rfl
  | _ => exact hproceed

end Call

end

end TxGateway
