import TxGateway.Proofs.Deciding

/-!
# Which transactions the chain is asked for

A call asks the chain for a transaction only while its poll of it goes on, and a poll begins only
for a transaction that is live.
-/

namespace TxGateway

theorem Poll.hash_of_resume {p : Policy} {now : Timestamp} {g : Gateway} {c d : Poll}
    {reply : Reply} (h : (c.resume p now g reply).2 = .waiting d) : d.hash = c.hash := by
  simp only [resume] at h
  split at h <;> cases h <;> rfl

/-- A poll that waits has found its transaction live. -/
theorem Settle.live_of_start {k : TxHash} {g : Gateway} {c : Settle}
    (h : Settle.start k g = .waiting c) :
    ∃ q r, c.asking? = some q ∧ q.hash = k ∧ g.watchlist.lookup? k = some r ∧ r.isLive = true := by
  simp only [start, Poll.start] at h
  split at h
  · cases h
  · rename_i r hr
    split at h
    · cases h
      exact ⟨_, r, rfl, rfl, hr, ‹_›⟩
    · cases h

/-- A poll on behalf of a client asks for the transaction that it has asked for before. -/
theorem Settle.asking_of_resume {p : Policy} {now : Timestamp} {g : Gateway} {c d : Settle}
    {reply : Reply} {q : Poll} (h : (c.resume p now g reply).2 = .waiting d)
    (hq : d.asking? = some q) : ∃ q', c.asking? = some q' ∧ q'.hash = q.hash := by
  cases c with
  | polling c =>
      simp only [resume] at h
      cases hx : (c.resume p now g reply).2 with
      | waiting c' =>
          rw [hx] at h
          cases h
          cases hq
          exact ⟨c, rfl, (Poll.hash_of_resume hx).symm⟩
      | ended result =>
          rw [hx] at h
          cases result with
          | error e => cases h
          | ok o =>
              simp only [afterPoll] at h
              split at h
              · cases h
              · split at h <;> cases h <;> cases hq
  | _ => cases reply <;> cases h <;> cases hq

namespace Sweep

variable {g : Gateway} {i slot : Nat} {c : Settle}

theorem get?_map_replace (running : List (Nat × Settle)) (i j : Nat) (c : Settle) :
    Entries.get? j (running.map fun e => if e.1 = i then (i, c) else e) =
      if j = i then (Entries.get? j running).map fun _ => c else Entries.get? j running := by
  induction running with
  | nil => simp [Entries.get?]
  | cons e rest ih =>
      by_cases he : e.1 = i
      · by_cases hj : j = i
        · simp [Entries.get?, he, hj]
        · have hij : i ≠ j := Ne.symm hj
          simpa [Entries.get?, he, hj, hij] using ih
      · by_cases hej : e.1 = j
        · have hji : j ≠ i := hej ▸ he
          simp [Entries.get?, hej, hji]
        · simpa [Entries.get?, he, hej] using ih

theorem get?_of_filter {running : List (Nat × Settle)} {i j : Nat} {c : Settle}
    (h : Entries.get? j (running.filter fun e => decide (e.1 ≠ i)) = some c) :
    Entries.get? j running = some c := by
  induction running with
  | nil => cases h
  | cons e rest ih =>
      by_cases he : e.1 = i
      · rw [List.filter_cons_of_neg (by simpa using he)] at h
        have hrest := ih h
        have hne : e.1 ≠ j := by
          rintro rfl
          -- Nothing with that number is left.
          have hmem := List.mem_filter.mp (Entries.mem_of_get? h)
          simp [he] at hmem
        simpa [Entries.get?, hne] using hrest
      · rw [List.filter_cons_of_pos (by simpa using he)] at h
        by_cases hj : e.1 = j
        · simpa [Entries.get?, hj] using h
        · simp only [Entries.get?, hj, if_false] at h ⊢
          exact ih h

/-- A poll of a sweep has been going on, or it has been begun now. -/
theorem get?_of_fill {running : List (Nat × Settle)} {begun settled : Nat} {hs : List TxHash}
    (h : Entries.get? slot (fill g running begun settled hs).running = some c) :
    Entries.get? slot running = some c ∨ ∃ k, Settle.start k g = .waiting c := by
  induction hs generalizing running begun with
  | nil => exact .inl h
  | cons k hs ih =>
      simp only [fill] at h
      split at h
      · exact .inl h
      · split at h
        · rename_i c' hstart
          rcases ih h with hget | hnew
          · rw [Entries.get?_append, Option.or_eq_some_iff] at hget
            rcases hget with hold | ⟨-, hlast⟩
            · exact .inl hold
            · simp only [Entries.get?] at hlast
              split at hlast
              · cases hlast
                exact .inr ⟨k, hstart⟩
              · cases hlast
          · exact .inr hnew
        · exact ih h

theorem poll?_of_proceed {s s' : Sweep} (h : proceed g s = .waiting s')
    (hpoll : s'.poll? slot = some c) :
    s.poll? slot = some c ∨ ∃ k, Settle.start k g = .waiting c := by
  simp only [proceed] at h
  split at h
  · cases h
  · cases h
    rw [poll?_eq] at hpoll ⊢
    exact get?_of_fill hpoll

/-- A sweep asks for what it has asked for before under the same number, or for a transaction that
is live now. -/
theorem asking_of_resume {p : Policy} {now : Timestamp} {s s' : Sweep} {reply : Reply} {q : Poll}
    (h : (s.resume p now g i reply).2 = .waiting s') (hq : s'.asking? slot = some q) :
    (∃ q', s.asking? slot = some q' ∧ q'.hash = q.hash) ∨
      ∃ r, (s.resume p now g i reply).1.watchlist.lookup? q.hash = some r ∧ r.isLive = true := by
  obtain ⟨c, hc, hcq⟩ := Option.bind_eq_some_iff.mp hq
  cases hpoll : s.poll? i with
  | none =>
      simp only [resume, hpoll] at h
      cases h
      exact .inl ⟨q, hq, rfl⟩
  | some old =>
      simp only [resume, hpoll] at h ⊢
      cases hx : old.resume p now g reply with
      | mk g' x =>
          rw [hx] at h
          cases x with
          | waiting new =>
              cases h
              rw [poll?_eq, get?_map_replace] at hc
              split at hc
              · rename_i hslot
                subst hslot
                rw [← poll?_eq, hpoll] at hc
                cases hc
                obtain ⟨q', hq', hhash⟩ :=
                  Settle.asking_of_resume (congrArg Prod.snd hx) hcq
                exact .inl ⟨q', by rw [asking?, hpoll]; exact hq', hhash⟩
              · rw [← poll?_eq] at hc
                exact .inl ⟨q, by rw [asking?, hc]; exact hcq, rfl⟩
          | ended result =>
              rcases poll?_of_proceed h hc with hold | ⟨k, hstart⟩
              · rw [poll?_eq] at hold
                have hwas := get?_of_filter hold
                rw [← poll?_eq] at hwas
                exact .inl ⟨q, by rw [asking?, hwas]; exact hcq, rfl⟩
              · obtain ⟨q', r, hq', rfl, hr⟩ := Settle.live_of_start hstart
                cases hcq.symm.trans hq'
                exact .inr ⟨r, hr⟩

theorem asking_of_start {s : Sweep} {q : Poll} (h : (start g).2 = .waiting s)
    (hq : s.asking? slot = some q) :
    ∃ r, (start g).1.watchlist.lookup? q.hash = some r ∧ r.isLive = true := by
  obtain ⟨c, hc, hcq⟩ := Option.bind_eq_some_iff.mp hq
  rcases poll?_of_proceed h hc with hold | ⟨k, hstart⟩
  · cases hold
  · obtain ⟨q', r, hq', rfl, hr⟩ := Settle.live_of_start hstart
    cases hcq.symm.trans hq'
    exact ⟨r, hr⟩

end Sweep

namespace Monitor

variable {p : Policy} {now : Timestamp} {g : Gateway} {m m' : Monitor} {slot : Nat} {q : Poll}

/-- A monitor between two activities asks nothing. -/
theorem asking_of_settle (h : settle g m = .waiting m') :
    (Call.monitor m').asking? slot = none := by
  simp only [settle] at h
  split at h
  · cases h
  · cases h
    rfl

theorem asking_of_afterReconcile {x : Progress ReconcileAll Unit}
    (h : m.afterReconcile g x = .waiting m') : (Call.monitor m').asking? slot = none := by
  cases x with
  | waiting r =>
      cases h
      rfl
  | ended u => exact asking_of_settle h

/-- A monitor asks what its sweep asks. -/
theorem asking_of_afterSweep {x : Progress Sweep Nat} (h : m.afterSweep g x = .waiting m')
    (hq : (Call.monitor m').asking? slot = some q) :
    ∃ s, x = .waiting s ∧ s.asking? slot = some q := by
  cases x with
  | waiting s =>
      cases h
      exact ⟨s, rfl, hq⟩
  | ended n => cases (asking_of_settle h).symm.trans hq

theorem asking_of_act {i : Nat} (hm : (Call.monitor m).asking? slot = none)
    (h : (m.act p now g i).2 = .waiting m') (hq : (Call.monitor m').asking? slot = some q) :
    ∃ r, (m.act p now g i).1.watchlist.lookup? q.hash = some r ∧ r.isLive = true := by
  have hacts := m.acts p now g i
  generalize m.act p now g i = x at hacts h ⊢
  cases hacts with
  | sweeps =>
      obtain ⟨s, hs, hask⟩ := asking_of_afterSweep h hq
      exact Sweep.asking_of_start hs hask
  | reconciles => cases (asking_of_afterReconcile h).symm.trans hq
  | forgets evicts => cases (asking_of_settle h).symm.trans hq
  | breaksOff => cases h
  | waits =>
      cases h
      cases hm.symm.trans hq

theorem asking_of_resume {i : Nat} {reply : Reply} (h : (m.resume p now g i reply).2 = .waiting m')
    (hq : (Call.monitor m').asking? slot = some q) :
    (∃ q', (Call.monitor m).asking? slot = some q' ∧ q'.hash = q.hash) ∨
      ∃ r, (m.resume p now g i reply).1.watchlist.lookup? q.hash = some r ∧ r.isLive = true := by
  obtain ⟨refresh, reconcile, cleanup, activity⟩ := m
  cases activity with
  | idle =>
      cases reply with
      | done => exact .inr (asking_of_act rfl h hq)
      | _ =>
          cases h
          cases hq
  | sweeping s =>
      obtain ⟨s', hs', hask⟩ := asking_of_afterSweep h hq
      exact Sweep.asking_of_resume hs' hask
  | reconciling r => cases (asking_of_afterReconcile h).symm.trans hq

end Monitor

namespace Call

variable {p : Policy} {now : Timestamp} {g : Gateway} {c d : Call} {slot : Nat} {q : Poll}

theorem asking_of_start {t : Task} (h : (start p now g t).2 = .waiting d)
    (hq : d.asking? slot = some q) :
    ∃ r, (start p now g t).1.watchlist.lookup? q.hash = some r ∧ r.isLive = true := by
  cases t with
  | poll k =>
      obtain ⟨c, hc, rfl⟩ := Progress.exists_of_map_eq_waiting h
      cases hq
      have hstart : Settle.start k g = .waiting (.polling q) := by rw [Settle.start, hc]; rfl
      obtain ⟨_, r, hask, rfl, hr⟩ := Settle.live_of_start hstart
      cases hask
      exact ⟨r, hr⟩
  | settle k =>
      obtain ⟨c, hc, rfl⟩ := Progress.exists_of_map_eq_waiting h
      obtain ⟨_, r, hask, rfl, hr⟩ := Settle.live_of_start hc
      cases hask.symm.trans hq
      exact ⟨r, hr⟩
  | sweep =>
      obtain ⟨s, hs, rfl⟩ := Progress.exists_of_map_eq_waiting h
      exact Sweep.asking_of_start hs hq
  | reconcileAll =>
      obtain ⟨c, hc, rfl⟩ := Progress.exists_of_map_eq_waiting h
      cases hq
  | monitor =>
      obtain ⟨m, hm, rfl⟩ := Progress.exists_of_map_eq_waiting h
      simp only [Monitor.start] at hm
      split at hm
      · cases hm
      · cases (Monitor.asking_of_settle hm).symm.trans hq
  | giveBack a n =>
      simp only [start] at h
      split at h <;> cases h
      cases hq
  | expire a =>
      simp only [start] at h
      split at h <;> cases h
      cases hq
  | _ =>
      cases h
      cases hq

theorem asking_of_proceed {i : Nat} {reply : Reply}
    (h : (c.proceed p now g i reply).2 = .waiting d) (hq : d.asking? slot = some q) :
    (∃ q', c.asking? slot = some q' ∧ q'.hash = q.hash) ∨
      ∃ r, (c.proceed p now g i reply).1.watchlist.lookup? q.hash = some r ∧ r.isLive = true := by
  cases c with
  | poll c =>
      obtain ⟨c', hc', rfl⟩ := Progress.exists_of_map_eq_waiting h
      cases hq
      exact .inl ⟨c, rfl, (Poll.hash_of_resume hc').symm⟩
  | settle c =>
      obtain ⟨c', hc', rfl⟩ := Progress.exists_of_map_eq_waiting h
      exact .inl (Settle.asking_of_resume hc' hq)
  | sweep s =>
      obtain ⟨s', hs', rfl⟩ := Progress.exists_of_map_eq_waiting h
      exact Sweep.asking_of_resume hs' hq
  | monitor m =>
      obtain ⟨m', hm', rfl⟩ := Progress.exists_of_map_eq_waiting h
      exact Monitor.asking_of_resume hm' hq
  | giveBack a n => cases h
  | expire a => cases h
  | storeHealth => cases h
  | readiness store =>
      cases store <;> cases h
      cases hq
  | _ =>
      obtain ⟨c', -, rfl⟩ := Progress.exists_of_map_eq_waiting h
      cases hq

/-- A call asks for what it has asked for before under the same number, or for a transaction that
is live now. -/
theorem asking_of_resume {i : Nat} {reply : Reply} (h : (c.resume p now g i reply).2 = .waiting d)
    (hq : d.asking? slot = some q) :
    (∃ q', c.asking? slot = some q' ∧ q'.hash = q.hash) ∨
      ∃ r, (c.resume p now g i reply).1.watchlist.lookup? q.hash = some r ∧ r.isLive = true := by
  cases reply with
  | crashed crash =>
      simp only [resume] at h
      split at h <;> cases h
      exact .inl ⟨q, hq, rfl⟩
  | _ => exact asking_of_proceed h hq

end Call

end TxGateway
