import TxGateway.Proofs.Signatures

/-!
# A nonce passes from holder to holder

In a tidy run with a reliable signer and node no holder loses its nonce: it keeps it, gives it back,
or passes it on, until the transaction is mined. So every pending nonce has a holder, or a poll has
found its transaction mined.
-/

namespace TxGateway

namespace Sweep

variable {s : Sweep} {slot : Nat} {c : Settle}

/-- Filling a sweep up leaves its polls in progress alone. -/
theorem get?_fill (g : Gateway) (running : List (Nat × Settle)) (begun settled : Nat)
    (hs : List TxHash) (h : Entries.get? slot running = some c) :
    Entries.get? slot (fill g running begun settled hs).running = some c := by
  induction hs generalizing running begun with
  | nil => exact h
  | cons k hs ih =>
      simp only [fill]
      split
      · exact h
      · split
        · apply ih
          rw [Entries.get?_append, h]
          rfl
        · exact ih running (begun + 1) h

/-- A sweep with a poll in progress goes on with it. -/
theorem poll?_proceed (g : Gateway) (h : s.poll? slot = some c) :
    ∃ s', proceed g s = .waiting s' ∧ s'.poll? slot = some c := by
  rw [poll?_eq] at h
  have hfill := get?_fill g s.running s.begun s.settled s.waiting h
  refine ⟨fill g s.running s.begun s.settled s.waiting, ?_, (poll?_eq _ slot).trans hfill⟩
  simp only [proceed]
  rw [if_neg]
  intro hempty
  rw [List.isEmpty_iff] at hempty
  rw [hempty] at hfill
  cases hfill

/-- The other polls of a sweep are left alone by an answer to one of them. -/
theorem poll?_resume_of_ne (hs : s.Sound) (h : s.poll? slot = some c) (p : Policy)
    (now : Timestamp) (g : Gateway) {i : Nat} (hi : i ≠ slot) (reply : Reply) :
    ∃ s', (s.resume p now g i reply).2 = .waiting s' ∧ s'.poll? slot = some c := by
  have hget := h
  rw [poll?_eq] at hget
  cases hpoll : s.poll? i with
  | none =>
      refine ⟨s, ?_, h⟩
      simp only [resume, hpoll]
  | some old =>
      have hgeti := hpoll
      rw [poll?_eq] at hgeti
      simp only [resume, hpoll]
      split
      · refine ⟨_, rfl, ?_⟩
        rw [poll?_eq, map_eq_set hs.nodup hgeti, Entries.get?_set, if_neg (Ne.symm hi)]
        exact hget
      · apply poll?_proceed
        rw [poll?_eq]
        simp only [ne_eq]
        rw [Entries.get?_filter _ _ hs.nodup, hget]
        simp [Option.filter, Ne.symm hi]

/-- A poll of a sweep that waits on after an answer does so under its number. -/
theorem poll?_resume_self (hs : s.Sound) (h : s.poll? slot = some c) {p : Policy}
    {now : Timestamp} {g : Gateway} {reply : Reply} {d : Settle}
    (hd : (c.resume p now g reply).2 = .waiting d) :
    ∃ s', (s.resume p now g slot reply).2 = .waiting s' ∧ s'.poll? slot = some d := by
  have hget := h
  rw [poll?_eq] at hget
  obtain ⟨g', hd⟩ : ∃ g', c.resume p now g reply = (g', .waiting d) := ⟨_, Prod.ext rfl hd⟩
  refine ⟨_, by simp only [resume, h, hd]; rfl, ?_⟩
  rw [poll?_eq, map_eq_set hs.nodup hget, Entries.get?_set, if_pos rfl]

/-- A poll of a sweep that is to give a nonce back does so at its turn, and waits for it else. -/
theorem releasing_resume (hs : s.Sound) {o : Watchlist.Observation}
    (h : s.poll? slot = some (.releasing o)) (p : Policy) (now : Timestamp) (g : Gateway) (i : Nat)
    (reply : Reply) :
    s.turn? i reply = some (o.record.account, .giveBack o.record.nonce) ∨
      ∃ s', (s.resume p now g i reply).2 = .waiting s' ∧
        s'.poll? slot = some (.releasing o) := by
  by_cases hi : i = slot
  · subst hi
    cases reply with
    | done =>
        left
        simp only [turn?, h, Option.bind_some]
        rfl
    | _ => exact .inr (poll?_resume_self hs h rfl)
  · exact .inr (poll?_resume_of_ne hs h p now g hi reply)

theorem turn_mem_queries {o : Watchlist.Observation} (h : s.poll? slot = some (.releasing o)) :
    (slot, .turn o.record.account) ∈ s.queries := by
  rw [poll?_eq] at h
  exact List.mem_map.mpr ⟨_, Entries.mem_of_get? h, rfl⟩

end Sweep

namespace Call

variable {c : Call} {slot : Nat} {o : Watchlist.Observation}

/-- A poll that is to give a nonce back does so at its turn, and waits for it else. -/
theorem releasing_proceed (ho : c.Orderly) (h : c.poll? slot = some (.releasing o)) (p : Policy)
    (now : Timestamp) (g : Gateway) (i : Nat) {reply : Reply}
    (hr : ∀ crash, reply ≠ .crashed crash) :
    c.turn? i reply = some (o.record.account, .giveBack o.record.nonce) ∨
      ∃ d, (c.proceed p now g i reply).2 = .waiting d ∧ d.poll? slot = some (.releasing o) := by
  have hproceed : c.turnOf? i reply = some (o.record.account, .giveBack o.record.nonce) ∨
      ∃ d, (c.proceed p now g i reply).2 = .waiting d ∧ d.poll? slot = some (.releasing o) := by
    cases c with
    | settle stage =>
        have hget := h
        simp only [poll?] at hget
        split at hget
        · cases hget
          cases reply with
          | done => exact .inl rfl
          | _ => exact .inr ⟨_, rfl, h⟩
        · cases hget
    | sweep s =>
        rcases Sweep.releasing_resume ho h p now g i reply with hturn | ⟨s', hstep, hpoll⟩
        · exact .inl hturn
        · refine .inr ⟨.sweep s', ?_, hpoll⟩
          simp only [proceed, hstep]
          rfl
    | monitor m =>
        obtain ⟨refresh, reconcile, cleanup, activity⟩ := m
        cases activity with
        | sweeping s =>
            rcases Sweep.releasing_resume (ho s rfl) h p now g i reply with
              hturn | ⟨s', hstep, hpoll⟩
            · exact .inl hturn
            · refine .inr ⟨.monitor ⟨refresh, reconcile, cleanup, .sweeping s'⟩, ?_, hpoll⟩
              simp only [proceed, Monitor.resume, hstep]
              rfl
        | _ => cases h
    | _ => cases h
  cases reply with
  | crashed crash => exact absurd rfl (hr crash)
  | _ => exact hproceed

theorem waitsForTurn_of_poll? (h : c.poll? slot = some (.releasing o)) : c.WaitsForTurn := by
  cases c with
  | settle stage =>
      simp only [poll?] at h
      split at h
      · cases h
        exact ⟨0, _, List.mem_singleton_self _⟩
      · cases h
  | sweep s => exact ⟨slot, _, Sweep.turn_mem_queries h⟩
  | monitor m =>
      obtain ⟨refresh, reconcile, cleanup, activity⟩ := m
      cases activity with
      | sweeping s => exact ⟨slot, _, Sweep.turn_mem_queries h⟩
      | _ => cases h
  | _ => cases h

end Call

namespace System

variable {p : Policy} {s : System} {m : Moment} {a : Address} {n : Nat}

/-- A call that waits for a turn at a ledger is not dropped at a moment of a tidy run, so it goes on
with an answer if the moment is about it. -/
theorem get?_pass_of_waitsForTurn {i : Nat} {c : Call} (hget : s.calls.get? i = some c)
    (hi : i < s.opened) (hw : c.WaitsForTurn) (hm : m.IsTidy s) :
    (s.pass p m).calls.get? i = some c ∨
      ∃ slot r, m.what = .event (.reply i slot r) ∧ (∀ crash, r ≠ .crashed crash) ∧
        s.turn? m = c.turn? slot r ∧
        (s.pass p m).calls.get? i =
          match (c.proceed p m.now s.gateway slot r).2 with
          | .waiting d => some d
          | .ended _ => none := by
  rcases get?_pass_cases hget hi p m with ⟨-, hwhat⟩ | hgoes
  · obtain ⟨now, what⟩ := m
    rcases hwhat with rfl | ⟨slot, crash, rfl⟩
    · exact absurd hw (hm c hget)
    · exact absurd hw (hm c hget)
  · exact hgoes

/-- A submission that is giving its nonce up does so at its turn, and waits for it else. -/
theorem GivingUp.releases {c : Nat} (h : GivingUp c a n s) (ho : s.Orderly) (hm : m.IsTidy s) :
    s.turn? m = some (a, .giveBack n) ∨ (s.pass p m).Holds a n (.submission c) := by
  obtain ⟨request, e, rfl, hget⟩ := h
  have hwaits : (Call.submit ⟨request, .returning n e⟩).WaitsForTurn :=
    ⟨0, _, List.mem_singleton_self _⟩
  rcases get?_pass_of_waitsForTurn (p := p) hget (ho.lt_opened c _ hget) hwaits hm with
    hstay | ⟨slot, r, -, hcrash, hturn, hnext⟩
  · exact .inr ⟨_, hstay, rfl, rfl⟩
  · cases r with
    | done => exact .inl hturn
    | crashed crash => exact absurd rfl (hcrash crash)
    | _ => exact .inr ⟨_, hnext, rfl, rfl⟩

/-- A chore gives its nonce back at its turn, and waits for it else. -/
theorem Holds.chore_releases {i : Nat} (h : s.Holds a n (.chore i)) (ho : s.Orderly)
    (hm : m.IsTidy s) :
    s.turn? m = some (a, .giveBack n) ∨ (s.pass p m).Holds a n (.chore i) := by
  have hwaits : (Call.chore (.releasing a n)).WaitsForTurn := ⟨0, _, List.mem_singleton_self _⟩
  rcases get?_pass_of_waitsForTurn (p := p) h (ho.lt_opened i _ h) hwaits hm with
    hstay | ⟨slot, r, -, hcrash, hturn, hnext⟩
  · exact .inr hstay
  · cases r with
    | done => exact .inl hturn
    | crashed crash => exact absurd rfl (hcrash crash)
    | _ => exact .inr hnext

/-- A poll gives its nonce back at its turn, and waits for it else. -/
theorem Holds.poll_releases {i slot : Nat} (h : s.Holds a n (.poll i slot)) (ho : s.Orderly)
    (hm : m.IsTidy s) :
    s.turn? m = some (a, .giveBack n) ∨ (s.pass p m).Holds a n (.poll i slot) := by
  obtain ⟨c, o, hget, hpoll, rfl, rfl⟩ := h
  rcases get?_pass_of_waitsForTurn (p := p) hget (ho.lt_opened i _ hget)
    (Call.waitsForTurn_of_poll? hpoll) hm with
    hstay | ⟨slot', r, -, hcrash, hturn, hnext⟩
  · exact .inr ⟨c, o, hstay, hpoll, rfl, rfl⟩
  · rcases Call.releasing_proceed (ho.each i c hget) hpoll p m.now s.gateway slot' hcrash with
      hback | ⟨d, hd, hpoll'⟩
    · exact .inl (hturn.trans hback)
    · rw [hd] at hnext
      exact .inr ⟨d, o, hnext, hpoll', rfl, rfl⟩

/-- A transaction that was live and is dropped after a moment of a tidy run has left its nonce to
the poll that has found it dropped. -/
theorem Seen.leaves_poll (h : Seen p s m) (ho : s.Orderly) {k : TxHash} {r r' : Record}
    (hr : s.gateway.watchlist.lookup? k = some r) (hpending : r.status = .pending)
    (hr' : (s.pass p m).gateway.watchlist.lookup? k = some r') (hdropped : r'.status = .dropped) :
    ∃ i slot, (s.pass p m).Holds r.account r.nonce (.poll i slot) := by
  have hchanges : r' ≠ r := by
    rintro rfl
    rw [hpending] at hdropped
    cases hdropped
  cases h with
  | same watchlist_eq =>
      rw [watchlist_eq, hr] at hr'
      exact absurd (Option.some.inj hr').symm hchanges
  | conclude way concludes =>
      rcases way.enters (p := p) concludes ho with ⟨htracks, hlookup⟩ | ⟨hsame, -⟩
      · rw [hlookup] at hr'
        split at hr'
        · rename_i hk
          have hnew := htracks.unknown
          rw [← hk, hr] at hnew
          cases hnew
        · exact absurd (Option.some.inj (hr.symm.trans hr')).symm hchanges
      · rw [hsame, hr] at hr'
        exact absurd (Option.some.inj hr').symm hchanges
  | @poll k' now status o polled goesOn =>
      rw [Watchlist.lookup?_of_polled polled] at hr'
      split at hr'
      · rename_i hk
        subst hk
        obtain ⟨r₁, hr₁, -, -, hrecord, hchanged⟩ := Watchlist.polled?_eq_some polled
        obtain rfl : r = r₁ := Option.some.inj (hr.symm.trans hr₁)
        cases hr'
        have hstatus : status = .dropped := by
          simpa [hrecord, Record.isLive_of_pending hpending] using hdropped
        have hsub := submission_of_polled polled hr
        simp only [Record.submission, Submission.mk.injEq] at hsub
        rw [← hsub.2.1, ← hsub.2.2.1]
        apply goesOn _ hdropped
        rw [hchanged, hstatus, Record.isLive_of_pending hpending]
        rfl
      · exact absurd (Option.some.inj (hr.symm.trans hr')).symm hchanges
  | purge purged =>
      rw [purged, Watchlist.lookup?_purge, Option.filter_eq_some_iff] at hr'
      exact absurd (Option.some.inj (hr.symm.trans hr'.1)).symm hchanges

section

variable {ms : List Moment} {k : Nat}

/-- A submission that holds a nonce keeps it, gives it back, or leaves it to the watchlist or to a
chore. -/
theorem Holds.submission_passes (hms : IsTidyRun p ms) (hrel : Reliable p ms)
    (hm : ms[k]? = some m) {c : Nat} (h : (upTo p ms k).Holds a n (.submission c)) :
    (upTo p ms k).turn? m = some (a, .giveBack n) ∨
      ∃ x, ((upTo p ms k).pass p m).Holds a n x := by
  have hs := hms.tidy (le_length hm)
  have hopened : c < (upTo p ms k).opened := by
    obtain ⟨d, hget, -⟩ := h
    exact hs.lt_opened c _ hget
  rcases h.stage hs.orderly with hunsent | hgiving | ⟨sent, hway, rfl, rfl⟩
  · rcases hunsent.pass (p := p) (m := m) hopened with
      hstill | hgiving | hgone | ⟨sent, hway, haccount, hnonce⟩
    · exact .inr ⟨_, hstill.holds⟩
    · exact .inr ⟨_, hgiving.holds⟩
    · exact .inr ⟨.chore (upTo p ms k).opened, hunsent.leaves_chore
        (sound_of_orderly hs.orderly) (hunsent.drops hopened hgone)⟩
    · subst haccount
      subst hnonce
      exact .inr ⟨_, hway.holds (hs.pass p (hms k m hm)).orderly⟩
  · rcases hgiving.releases (p := p) hs.orderly (hms k m hm) with hback | hstill
    · exact .inl hback
    · exact .inr ⟨_, hstill⟩
  · rcases hway.pass (p := p) (m := m) hopened with hstill | hrefused | ⟨r, hr⟩
    · exact .inr ⟨_, hstill.holds (hs.pass p (hms k m hm)).orderly⟩
    · exact .inr ⟨_, (hrefused.givingUp hs.orderly).holds⟩
    · obtain ⟨-, haccount, hnonce, -⟩ :=
        concluded_eq hr (hway.fresh (sound_of_orderly hs.orderly)).1
      rcases hway.tracks_or_holds hms hrel hm hr with htracks | hheld
      · exact .inr ⟨.transaction r.hash, r, htracks.tracked, haccount, hnonce, htracks.pending⟩
      · exact .inr hheld

/-- A live transaction stays live, is found mined, or leaves its nonce to the poll that has found it
dropped. -/
theorem Holds.transaction_passes (hms : IsTidyRun p ms) (hm : ms[k]? = some m) {h : TxHash}
    (hx : (upTo p ms k).Holds a n (.transaction h)) :
    (∃ x, ((upTo p ms k).pass p m).Holds a n x) ∨
      ∃ r status, (upTo p ms k).gateway.watchlist.lookup? h = some r ∧ r.account = a ∧
        r.nonce = n ∧ Settles p r status (upTo p ms k) m ∧ status ≠ .dropped := by
  have hs := hms.tidy (le_length hm)
  obtain ⟨r, hr, rfl, rfl, hpending⟩ := hx
  obtain ⟨rfl, -⟩ := tracked_of_lookup? hms (le_length hm) hr
  have hlive : Live r (upTo p ms k) := ⟨r, hr, rfl, hpending⟩
  rcases hlive.pass (p := p) hs.orderly (hms.isOrderly m (List.mem_of_getElem? hm)) with
    ⟨r', hr', hsame, hopen⟩ | ⟨status, hsettles, -, -⟩
  · simp only [Record.submission, Submission.mk.injEq] at hsame
    exact .inl ⟨.transaction r.hash, r', hr', hsame.2.1, hsame.2.2.1, hopen⟩
  · by_cases hdropped : status = .dropped
    · subst hdropped
      obtain ⟨-, -, now, o, -, hpolled⟩ := hsettles
      have hr' := Watchlist.lookup?_of_polled hpolled r.hash
      rw [if_pos rfl] at hr'
      obtain ⟨r₁, hr₁, -, -, hrecord, -⟩ := Watchlist.polled?_eq_some hpolled
      obtain rfl : r = r₁ := Option.some.inj (hr.symm.trans hr₁)
      have hstatus : o.record.status = .dropped := by
        simp [hrecord, Record.isLive_of_pending hpending]
      obtain ⟨i, slot, hpoll⟩ := (seen_pass hs).leaves_poll hs.orderly hr hpending hr' hstatus
      exact .inl ⟨_, hpoll⟩
    · exact .inr ⟨r, status, hr, rfl, rfl, hsettles, hdropped⟩

/-- No holder loses its nonce: it gives it back, or somebody holds it afterwards, or its transaction
has been found mined. -/
theorem Holds.passes (hms : IsTidyRun p ms) (hrel : Reliable p ms) (hm : ms[k]? = some m)
    {x : Holder} (hx : (upTo p ms k).Holds a n x) :
    (upTo p ms k).turn? m = some (a, .giveBack n) ∨
      (∃ y, ((upTo p ms k).pass p m).Holds a n y) ∨
      ∃ h r status, (upTo p ms k).gateway.watchlist.lookup? h = some r ∧ r.account = a ∧
        r.nonce = n ∧ Settles p r status (upTo p ms k) m ∧ status ≠ .dropped := by
  have ho := (hms.tidy (le_length hm)).orderly
  cases x with
  | submission c =>
      rcases hx.submission_passes hms hrel hm with hback | hheld
      · exact .inl hback
      · exact .inr (.inl hheld)
  | transaction h =>
      rcases hx.transaction_passes hms hm with hheld | hmined
      · exact .inr (.inl hheld)
      · exact .inr (.inr ⟨h, hmined⟩)
  | poll i slot =>
      rcases hx.poll_releases (p := p) ho (hms k m hm) with hback | hheld
      · exact .inl hback
      · exact .inr (.inl ⟨_, hheld⟩)
  | chore i =>
      rcases hx.chore_releases (p := p) ho (hms k m hm) with hback | hheld
      · exact .inl hback
      · exact .inr (.inl ⟨_, hheld⟩)

/-- Which transaction a poll settles depends on the submission that a record tells of. -/
theorem Settles.congr {r r₀ : Record} {status : Status} (h : Settles p r status s m)
    (hsub : r₀.submission = r.submission) : Settles p r₀ status s m := by
  have hhash : r₀.hash = r.hash := congrArg Submission.hash hsub
  simp only [Settles, Live, hhash, hsub]
  exact h

/-- A poll of a run has found mined the transaction of a nonce, which a submission had sent and put
on the watchlist. -/
def Mined (p : Policy) (ms : List Moment) (k : Nat) (a : Address) (n : Nat) : Prop :=
  ∃ i l c r status, i < l ∧ l < k ∧ r.account = a ∧ r.nonce = n ∧ At p ms i (Tracks p c r) ∧
    At p ms l (Settles p r status) ∧ status ≠ .dropped

/-- Every pending nonce has a holder, or its transaction has been found mined. -/
theorem holds_or_mined (hms : IsTidyRun p ms) (hrel : Reliable p ms) (hk : k ≤ ms.length)
    (hn : n ∈ (upTo p ms k).gateway.pendingNonces a) :
    (∃ x, (upTo p ms k).Holds a n x) ∨ Mined p ms k a n := by
  revert hn
  apply upTo_induction (P := fun k s => n ∈ s.gateway.pendingNonces a →
    (∃ x, s.Holds a n x) ∨ Mined p ms k a n) (Nat.zero_le k) hk
  · intro hn
    cases hn
  · intro j m _ _ hm ih hn
    have hs := hms.tidy (le_length hm)
    rcases pending_pass hn with ⟨hwas, hturn⟩ | hout
    · rcases ih hwas with ⟨x, hx⟩ | ⟨i, l, c, r, status, hil, hlk, hmined⟩
      · rcases hx.passes hms hrel hm with
          hback | hheld | ⟨h, r, status, hr, rfl, rfl, hsettles, hstatus⟩
        · exact absurd hback hturn
        · exact .inl hheld
        · obtain ⟨-, i, hij, c, r₀, htracks, hsub⟩ := tracked_of_lookup? hms (le_length hm) hr
          have hfields := hsub
          simp only [Record.submission, Submission.mk.injEq] at hfields
          exact .inr ⟨i, j, c, r₀, status, hij, Nat.lt_succ_self j, hfields.2.1, hfields.2.2.1,
            htracks, ⟨m, hm, hsettles.congr hsub⟩, hstatus⟩
      · exact .inr ⟨i, l, c, r, status, hil, Nat.lt_succ_of_lt hlk, hmined⟩
    · obtain ⟨c, hgiven⟩ := hout.exists_given hs
      have hopened : c < (upTo p ms j).opened := by
        obtain ⟨request, slot, -, -, hget, -⟩ := hgiven
        exact hs.lt_opened c _ hget
      exact .inl ⟨.submission c, (hgiven.unsent (p := p) hopened).holds⟩

end

end System

end TxGateway
