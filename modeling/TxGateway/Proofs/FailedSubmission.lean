import TxGateway.Proofs.Undoing

/-!
# A submission that fails leaves no trace

A submission that runs with nothing else in between and fails, unless the node may have the
transaction, leaves the ledger of its account as it was when the confirmed count had been taken in,
or as it was in the beginning if no count has been taken in; and nothing else has changed. This
needs that the greatest nonce is not pending: when it is given back, the next nonce does not come
back. The proof follows the submission from moment to moment: it has ended, or it has left no trace
so far, or its broadcast has ended without a refusal.
-/

namespace TxGateway

/-- The moments at which a submission with a number is begun and gets answers, with nothing in
between. -/
def Request.alone (request : Request) (i : Nat) (t₀ : Timestamp)
    (answers : List (Timestamp × Reply)) : List Moment :=
  ⟨t₀, .event (.start (.submit request))⟩ ::
    answers.map fun x => ⟨x.1, .event (.reply i 0 x.2)⟩

namespace System

/-- The question for a confirmed count, with which a submission brings an old ledger up to date,
fails. -/
def CountFails (i : Nat) (a : Address) (s : System) (m : Moment) : Prop :=
  s.queries i = [(0, .count a)] ∧ ∃ now e, m = ⟨now, .event (.reply i 0 (.failed e))⟩

/-- The wait of a submission for its broadcast ends without a refusal. -/
def Unrefused (i : Nat) (s : System) (m : Moment) : Prop :=
  ∃ sent r, OnItsWay i sent s ∧ m.concludes? i sent = some r

/-- A run has left no trace of what it has done for an account from a moment on, but for the
confirmed count that it has taken in. -/
structure LeavesNoTrace (p : Policy) (run : List Moment) (start i : Nat) (a : Address) : Prop where
  /-- The same transactions are watched, and they use the same nonces. -/
  watchlist_eq : (after p run).gateway.watchlist = (upTo p run start).gateway.watchlist
  /-- A store holds the same records. -/
  store_eq : ∀ store, storeUpTo p store run run.length = storeUpTo p store run start
  /-- The other accounts have the same ledgers, or none as before. -/
  others : ∀ b, b ≠ a →
    (after p run).gateway.ledgers.get? b = (upTo p run start).gateway.ledgers.get? b
  /-- If a count has been taken in, the ledger is as it was right after that. -/
  told : ∀ k count, start ≤ k → At p run k (TakesIn a count) →
    (after p run).gateway.ledgers.get? a = (upTo p run (k + 1)).gateway.ledgers.get? a
  /-- If none has been taken in, the ledger is as it was in the beginning. -/
  untold : (∀ k count, start ≤ k → ¬ At p run k (TakesIn a count)) →
    (after p run).gateway.ledgers.get? a = (upTo p run start).gateway.ledgers.get? a
  /-- If the question for a count has failed, the account has the same ledger, or none as before. -/
  uncounted : ∀ k, start ≤ k → At p run k (CountFails i a) →
    (after p run).gateway.ledgers.get? a = (upTo p run start).gateway.ledgers.get? a

section

variable {p : Policy} {s : System} {i : Nat} {c : Submit} {t : Timestamp} {r : Reply}

theorem reply_of_waits {g : Gateway} {c' : Submit} (hcall : s.calls.get? i = some (.submit c))
    (hcrash : ∀ crash, r ≠ .crashed crash) (h : c.resume p t s.gateway r = (g, .waiting c')) :
    (s.reply p t i 0 r).1.gateway = g ∧
      (s.reply p t i 0 r).1.calls.get? i = some (.submit c') ∧
      (s.reply p t i 0 r).2.ending = none := by
  simp [reply, hcall, Call.resume_eq_proceed hcrash, Call.proceed, h, Progress.map]

theorem reply_of_returns {g : Gateway} {result : Except Failure Submission}
    (hcall : s.calls.get? i = some (.submit c)) (hcrash : ∀ crash, r ≠ .crashed crash)
    (h : c.resume p t s.gateway r = (g, .ended (.returned result))) :
    (s.reply p t i 0 r).1.gateway = g ∧ Gone i (s.reply p t i 0 r).1 ∧
      (s.reply p t i 0 r).2.ending = some (.returned (result.map .submitted)) := by
  simp [reply, Gone, hcall, Call.resume_eq_proceed hcrash, Call.proceed, h, Progress.map,
    Ending.map, Table.get?_erase]

theorem reply_of_crashes {g : Gateway} {crash : Crash} (hi : i < s.opened)
    (hcall : s.calls.get? i = some (.submit c)) (hcrash : ∀ crash, r ≠ .crashed crash)
    (h : c.resume p t s.gateway r = (g, .ended (.crashed crash))) :
    Gone i (s.reply p t i 0 r).1 ∧
      (s.reply p t i 0 r).2.ending = some (.crashed crash) := by
  have hget := get?_reply hi p t i 0 r
  rw [if_pos rfl, hcall, Option.bind_some] at hget
  simp only [Call.resume_eq_proceed hcrash, Call.proceed, h, Progress.map, Ending.map] at hget
  refine ⟨hget, ?_⟩
  simp [reply, hcall, Call.resume_eq_proceed hcrash, Call.proceed, h, Progress.map, Ending.map]

/-- What the chain or the signer breaks off is no failure, and it changes nothing for a submission
that goes on. -/
theorem reply_crashed (hi : i < s.opened) (hcall : s.calls.get? i = some (.submit c))
    (crash : Crash) :
    (Gone i (s.reply p t i 0 (.crashed crash)).1 ∧
        (s.reply p t i 0 (.crashed crash)).2.ending = some (.crashed crash)) ∨
      ((s.reply p t i 0 (.crashed crash)).1.gateway = s.gateway ∧
        (s.reply p t i 0 (.crashed crash)).1.calls.get? i = some (.submit c) ∧
        (s.reply p t i 0 (.crashed crash)).2.ending = none) := by
  have hget := get?_reply hi p t i 0 (.crashed crash)
  rw [if_pos rfl, hcall, Option.bind_some] at hget
  by_cases hout : (Call.submit c).looksOutward 0 = true
  · left
    simp only [Call.resume, hout, if_true] at hget
    refine ⟨hget, ?_⟩
    simp [reply, hcall, Call.resume, hout]
  · right
    simp [reply, hcall, Call.resume, hout]

end

/-- What a submission that runs alone has done before a moment of a run with a number: it has left
no trace but for a count, and `entry` is what is to be left of the ledger of its account. -/
structure Traceless (p : Policy) (run : List Moment) (start i : Nat) (a : Address) (k : Nat)
    (entry : Option Ledger) (early : Prop) : Prop where
  /-- Nothing else has changed. -/
  confined : (upTo p run start).gateway.Confined (upTo p run k).gateway a
  /-- Nothing has been stored. -/
  unwritten : ∀ j, start ≤ j → j < k → ∀ r, ¬ At p run j (Writes r)
  /-- No question for a count has failed. -/
  counted : ∀ j, start ≤ j → j < k → ¬ At p run j (CountFails i a)
  /-- If a count has been taken in, the entry is the ledger right after that. -/
  told : ∀ j count, start ≤ j → j < k → At p run j (TakesIn a count) →
    (upTo p run (j + 1)).gateway.ledgers.get? a = entry
  /-- If none has been taken in, the entry is the ledger of the beginning. -/
  untold : (∀ j count, start ≤ j → j < k → ¬ At p run j (TakesIn a count)) →
    entry = (upTo p run start).gateway.ledgers.get? a
  /-- Early on none has been taken in. -/
  none_of_early : early → ∀ j count, start ≤ j → j < k → ¬ At p run j (TakesIn a count)

section

variable {p : Policy} {run : List Moment} {start i k : Nat} {a : Address} {entry : Option Ledger}
  {early : Prop}

theorem Traceless.begin : Traceless p run start i a start
    ((upTo p run start).gateway.ledgers.get? a) early where
  confined := .refl _ a
  unwritten := fun _ hj hlt => absurd hlt (Nat.not_lt.mpr hj)
  counted := fun _ hj hlt => absurd hlt (Nat.not_lt.mpr hj)
  told := fun _ _ hj hlt => absurd hlt (Nat.not_lt.mpr hj)
  untold := fun _ => rfl
  none_of_early := fun _ _ _ hj hlt => absurd hlt (Nat.not_lt.mpr hj)

/-- One moment more: it stores nothing, no question for a count fails at it, and if it takes a count
in, the entry is the ledger after it. -/
theorem Traceless.succ {m : Moment} {entry' : Option Ledger} {early' : Prop}
    (h : Traceless p run start i a k entry early) (hstart : start ≤ k) (hm : run[k]? = some m)
    (hconfined : (upTo p run k).gateway.Confined ((upTo p run k).pass p m).gateway a)
    (hwrites : ∀ r, ¬ Writes r (upTo p run k) m) (hcount : ¬ CountFails i a (upTo p run k) m)
    (htold : (∃ count, TakesIn a count (upTo p run k) m) →
      entry' = ((upTo p run k).pass p m).gateway.ledgers.get? a)
    (huntold : (¬ ∃ count, TakesIn a count (upTo p run k) m) → entry' = entry)
    (hearly : early' → early ∧ ¬ ∃ count, TakesIn a count (upTo p run k) m)
    (hfirst : early ∨ ¬ ∃ count, TakesIn a count (upTo p run k) m) :
    Traceless p run start i a (k + 1) entry' early' := by
  have hat : ∀ {happens : System → Moment → Prop}, At p run k happens →
      happens (upTo p run k) m := by
    rintro happens ⟨m', hm', hhappens⟩
    cases hm.symm.trans hm'
    exact hhappens
  have hcases : ∀ j, j < k + 1 → j < k ∨ j = k := fun j hj =>
    Nat.lt_or_eq_of_le (Nat.le_of_lt_succ hj)
  refine ⟨?_, ?_, ?_, ?_, ?_, ?_⟩
  · rw [upTo_succ hm]
    exact h.confined.trans hconfined
  · intro j hj hlt r hwrite
    rcases hcases j hlt with hlt | rfl
    · exact h.unwritten j hj hlt r hwrite
    · exact hwrites r (hat hwrite)
  · intro j hj hlt hfails
    rcases hcases j hlt with hlt | rfl
    · exact h.counted j hj hlt hfails
    · exact hcount (hat hfails)
  · intro j count hj hlt htakes
    rcases hcases j hlt with hlt | rfl
    · have hno : ¬ ∃ count, TakesIn a count (upTo p run k) m := by
        rcases hfirst with hearly | hno
        · exact absurd htakes (h.none_of_early hearly j count hj hlt)
        · exact hno
      rw [huntold hno]
      exact h.told j count hj hlt htakes
    · rw [upTo_succ hm, htold ⟨count, hat htakes⟩]
  · intro hnone
    have hno : ¬ ∃ count, TakesIn a count (upTo p run k) m := by
      rintro ⟨count, htakes⟩
      exact hnone k count hstart (Nat.lt_succ_self k) ⟨m, hm, htakes⟩
    rw [huntold hno]
    exact h.untold fun j count hj hlt => hnone j count hj (Nat.lt_succ_of_lt hlt)
  · intro hlate j count hj hlt htakes
    obtain ⟨hwas, hno⟩ := hearly hlate
    rcases hcases j hlt with hlt | rfl
    · exact h.none_of_early hwas j count hj hlt htakes
    · exact hno ⟨count, hat htakes⟩

/-- How a submission that runs alone stands before a moment of a run with a number. -/
inductive Alone (p : Policy) (run : List Moment) (start i : Nat) (request : Request) (k : Nat) :
    Prop
  /-- It has ended. -/
  | gone (gone : Gone i (upTo p run k))
  /-- It has left no trace so far. -/
  | quiet {c : Submit} {entry : Option Ledger} (request_eq : c.request = request)
      (get_eq : (upTo p run k).calls.get? i = some (.submit c))
      (restores : c.stage.Restores entry ((upTo p run k).gateway.ledgers.get? request.account))
      (traceless : Traceless p run start i request.account k entry (c.stage.isEarly = true))
  /-- Its broadcast has ended without a refusal. -/
  | inDoubt {c : Submit} (get_eq : (upTo p run k).calls.get? i = some (.submit c))
      (doubt : c.stage.IsInDoubt) {j : Nat} (lt : j < k) (unrefused : At p run j (Unrefused i))

section

variable {request : Request} {c : Submit} {t : Timestamp} {r : Reply} {s : System}

theorem turn?_of_submit (hcall : s.calls.get? i = some (.submit c))
    (hcrash : ∀ crash, r ≠ .crashed crash) :
    s.turn? ⟨t, .event (.reply i 0 r)⟩ = c.turn? r := by
  cases r with
  | crashed crash => exact absurd rfl (hcrash crash)
  | _ => simp [turn?, hcall, Call.turn?, Call.turnOf?]

theorem takesIn_iff (hcall : s.calls.get? i = some (.submit c))
    (hcrash : ∀ crash, r ≠ .crashed crash) :
    (∃ count, TakesIn c.request.account count s ⟨t, .event (.reply i 0 r)⟩) ↔ c.Counts r := by
  simp only [TakesIn, Submit.Counts, turn?_of_submit hcall hcrash]

theorem not_writes (hcall : s.calls.get? i = some (.submit c)) {entry now : Option Ledger}
    (hrestores : c.stage.Restores entry now) (r' : Record) :
    ¬ Writes r' s ⟨t, .event (.reply i 0 r)⟩ := by
  intro hwrites
  cases r with
  | done =>
      simp only [Writes, write?, hcall, Option.bind_some, Call.write?, hrestores.record?_eq]
        at hwrites
      cases hwrites
  | _ => cases hwrites

/-- A submission that has left no trace so far fails when its question for a count does. -/
theorem fails_of_countFails (hcall : s.calls.get? i = some (.submit c))
    {entry now : Option Ledger} {a : Address} (hrestores : c.stage.Restores entry now)
    (hfails : CountFails i a s ⟨t, .event (.reply i 0 r)⟩) :
    c.stage.isEarly = true ∧ ¬ c.Counts r ∧
      ∃ e, c.resume p t s.gateway r = (s.gateway, .ended (.returned (.error e))) := by
  obtain ⟨hqueries, now, e, heq⟩ := hfails
  simp only [Moment.mk.injEq, Happening.event.injEq, Event.reply.injEq, true_and] at heq
  obtain ⟨rfl, rfl⟩ := heq
  have hquery : c.query = .count a := by
    simpa [queries, hcall, Call.queries] using hqueries
  have hstage := hrestores.stage_of_query hquery
  obtain ⟨request, stage⟩ := c
  simp only at hstage
  subst hstage
  exact ⟨rfl, by simp [Submit.Counts, Submit.turn?, Reconcile.turn?], e, rfl⟩

/-- The broadcast of a submission ends without a refusal. -/
theorem unrefused_of_concluded {sent r' : Record} {raw : Bytes}
    (hcall : s.calls.get? i = some (.submit c)) (hstage : c.stage = .broadcasting sent raw)
    (hr : Submit.concluded? t sent 0 r = some r') :
    Unrefused i s ⟨t, .event (.reply i 0 r)⟩ := by
  obtain ⟨request, stage⟩ := c
  simp only at hstage
  subst hstage
  exact ⟨sent, r', ⟨request, raw, hcall⟩, by simpa [Moment.concludes?] using hr⟩

/-- A submission that has left no trace and goes on has left none. -/
theorem Traceless.waits {c' : Submit} {entry' : Option Ledger}
    (h : Traceless p run start i c.request.account k entry (c.stage.isEarly = true))
    (hstart : start ≤ k) (hm : run[k]? = some ⟨t, .event (.reply i 0 r)⟩)
    (hcall : (upTo p run k).calls.get? i = some (.submit c))
    (hrestores : c.stage.Restores entry ((upTo p run k).gateway.ledgers.get? c.request.account))
    (hcrash : ∀ crash, r ≠ .crashed crash) {g : Gateway}
    (hstep : c.resume p t (upTo p run k).gateway r = (g, .waiting c'))
    (hconfined : (upTo p run k).gateway.Confined g c.request.account)
    (htold : c.Counts r → entry' = g.ledgers.get? c.request.account)
    (huntold : ¬ c.Counts r → entry' = entry)
    (hearly : c'.stage.isEarly = true → c.stage.isEarly = true ∧ ¬ c.Counts r) :
    Traceless p run start i c.request.account (k + 1) entry' (c'.stage.isEarly = true) := by
  obtain ⟨hgateway, -, -⟩ := reply_of_waits hcall hcrash hstep
  have hcounts := takesIn_iff (t := t) hcall hcrash
  have hpass : ((upTo p run k).pass p ⟨t, .event (.reply i 0 r)⟩).gateway = g := hgateway
  refine h.succ hstart hm ?_ (fun r' => not_writes hcall hrestores r') ?_ ?_ ?_ ?_ ?_
  · rwa [hpass]
  · intro hfails
    obtain ⟨-, -, e, hends⟩ := fails_of_countFails hcall hrestores hfails
    rw [hstep] at hends
    cases hends
  · rwa [hcounts, hpass]
  · rwa [hcounts]
  · rwa [hcounts]
  · rw [hcounts]
    -- Only early on a submission takes in a count.
    rcases Classical.em (c.Counts r) with hyes | hno
    · left
      obtain ⟨count, hturn⟩ := hyes
      obtain ⟨request, stage⟩ := c
      cases stage with
      | aging => rfl
      | refreshing o => rfl
      | obtaining o =>
          cases o with
          | turn => cases r <;> simp [Submit.turn?, Obtain.turn?] at hturn
          | seeding o => exact hrestores.elim
      | returning n e => cases r <;> simp [Submit.turn?] at hturn
      | _ => simp [Submit.turn?] at hturn
    · exact .inr hno

/-- What ends in doubt is in doubt, or has ended. -/
theorem alone_of_endsInDoubt (hi : i < (upTo p run k).opened)
    (hm : run[k]? = some ⟨t, .event (.reply i 0 r)⟩)
    (hcall : (upTo p run k).calls.get? i = some (.submit c))
    (hcrash : ∀ crash, r ≠ .crashed crash)
    (hdoubt : Submit.EndsInDoubt (c.resume p t (upTo p run k).gateway r).2) {j : Nat}
    (hj : j < k + 1) (hunrefused : At p run j (Unrefused i)) :
    Alone p run start i request (k + 1) := by
  have hnext := upTo_succ (p := p) hm
  cases hstep : c.resume p t (upTo p run k).gateway r with
  | mk g x =>
      rw [hstep] at hdoubt
      cases x with
      | waiting c' =>
          refine .inDoubt ?_ hdoubt hj hunrefused
          rw [hnext]
          exact (reply_of_waits hcall hcrash hstep).2.1
      | ended ending =>
          refine .gone ?_
          rw [hnext]
          cases ending with
          | returned result => exact (reply_of_returns hcall hcrash hstep).2.1
          | crashed crash => exact (reply_of_crashes hi hcall hcrash hstep).1

/-- What the chain breaks off leaves no trace. -/
theorem Traceless.crashed {crash : Crash}
    (h : Traceless p run start i a k entry early) (hstart : start ≤ k)
    (hm : run[k]? = some ⟨t, .event (.reply i 0 (.crashed crash))⟩)
    (hgateway : ((upTo p run k).reply p t i 0 (.crashed crash)).1.gateway =
      (upTo p run k).gateway) : Traceless p run start i a (k + 1) entry early := by
  have hpass : ((upTo p run k).pass p ⟨t, .event (.reply i 0 (.crashed crash))⟩).gateway =
      (upTo p run k).gateway := hgateway
  have htakes : ¬ ∃ count, TakesIn a count (upTo p run k)
      ⟨t, .event (.reply i 0 (.crashed crash))⟩ := by
    rintro ⟨count, htakes⟩
    simp [TakesIn, turn?, Call.turn?] at htakes
  refine h.succ hstart hm ?_ (fun r hwrites => by cases hwrites) ?_ (fun h => absurd h htakes)
    (fun _ => rfl) (fun h => ⟨h, htakes⟩) (.inr htakes)
  · rw [hpass]
    exact .refl _ a
  · rintro ⟨-, now, e, heq⟩
    cases heq

/-- There is room in the ledger after the next step of a submission. -/
theorem LeavesRoom.afterTurn (hroom : LeavesRoom p run c.request.account)
    (hm : run[k]? = some ⟨t, .event (.reply i 0 r)⟩)
    (hcall : (upTo p run k).calls.get? i = some (.submit c))
    (hcrash : ∀ crash, r ≠ .crashed crash) :
    ((upTo p run k).gateway.afterTurn t (c.turn? r) c.request.account).HasRoom := by
  have hnext := hroom (k + 1)
  rwa [upTo_succ hm, ledger_pass, turn?_of_submit hcall hcrash] at hnext

/-- One answer more. -/
theorem Alone.succ (h : Alone p run start i request k) (hroom : LeavesRoom p run request.account)
    (hi : i < (upTo p run k).opened) (hstart : start ≤ k)
    (hm : run[k]? = some ⟨t, .event (.reply i 0 r)⟩) :
    Alone p run start i request (k + 1) := by
  have hnext := upTo_succ (p := p) hm
  have hgone : Gone i ((upTo p run k).reply p t i 0 r).1 → Alone p run start i request (k + 1) :=
    fun h => .gone (by rw [hnext]; exact h)
  cases h with
  | gone h => exact hgone (get?_pass_of_none hi p ⟨t, .event (.reply i 0 r)⟩ h)
  | @quiet c entry request_eq get_eq restores traceless =>
      subst request_eq
      by_cases hcrash : ∀ crash, r ≠ .crashed crash
      · rcases c.goes_resume p t (hroom.kept k) (hroom.afterTurn hm get_eq hcrash)
          restores hcrash with hgoes | ⟨sent, raw, r', hstage, hr, hdoubt⟩
        · generalize hstep : c.resume p t (upTo p run k).gateway r = y at hgoes
          cases hgoes with
          | @waits g c' entry' confined request_eq told untold early restores' =>
              obtain ⟨hgateway, hget, -⟩ := reply_of_waits get_eq hcrash hstep
              refine .quiet request_eq (by rw [hnext]; exact hget) ?_
                (traceless.waits hstart hm get_eq restores hcrash hstep confined told untold early)
              rw [hnext]
              exact hgateway ▸ restores'
          | fails => exact hgone (reply_of_returns get_eq hcrash hstep).2.1
          | crashes => exact hgone (reply_of_crashes hi get_eq hcrash hstep).1
        · exact alone_of_endsInDoubt hi hm get_eq hcrash hdoubt (Nat.lt_succ_self k)
            ⟨_, hm, unrefused_of_concluded get_eq hstage hr⟩
      · obtain ⟨crash, rfl⟩ : ∃ crash, r = .crashed crash := by simpa using hcrash
        rcases reply_crashed (p := p) (t := t) hi get_eq crash with ⟨h, -⟩ | ⟨hgateway, hget, -⟩
        · exact hgone h
        · refine .quiet rfl (by rw [hnext]; exact hget) ?_
            (traceless.crashed hstart hm hgateway)
          rw [hnext]
          exact hgateway.symm ▸ restores
  | @inDoubt c get_eq doubt j lt unrefused =>
      by_cases hcrash : ∀ crash, r ≠ .crashed crash
      · exact alone_of_endsInDoubt hi hm get_eq hcrash (Submit.endsInDoubt_resume doubt)
          (Nat.lt_succ_of_lt lt) unrefused
      · obtain ⟨crash, rfl⟩ : ∃ crash, r = .crashed crash := by simpa using hcrash
        rcases reply_crashed (p := p) (t := t) hi get_eq crash with ⟨h, -⟩ | ⟨-, hget, -⟩
        · exact hgone h
        · exact .inDoubt (by rw [hnext]; exact hget) doubt (Nat.lt_succ_of_lt lt) unrefused

/-- While nothing is written, a store holds the same. -/
theorem storeUpTo_of_unwritten (store : Rehearsal.Store)
    (hno : ∀ j, start ≤ j → j < k → ∀ r, ¬ At p run j (Writes r)) (hstart : start ≤ k)
    (hk : k ≤ run.length) : storeUpTo p store run k = storeUpTo p store run start := by
  induction k, hstart using Nat.le_induction with
  | base => rfl
  | succ k hstart ih =>
      have hm : run[k]? = some run[k] := List.getElem?_eq_getElem hk
      have hnone : (upTo p run k).write? run[k] = none := by
        cases hwrite : (upTo p run k).write? run[k] with
        | none => rfl
        | some r' => exact absurd ⟨_, hm, hwrite⟩ (hno k hstart (Nat.lt_succ_self k) r')
      rw [storeUpTo_succ hm, hnone]
      exact ih (fun j hj hlt => hno j hj (Nat.lt_succ_of_lt hlt)) (Nat.le_of_succ_le hk)

/-- A submission in doubt that fails says so. -/
theorem unclear_of_ending {e : Failure} (hi : i < s.opened)
    (hcall : s.calls.get? i = some (.submit c)) (hcrash : ∀ crash, r ≠ .crashed crash)
    (hdoubt : Submit.EndsInDoubt (c.resume p t s.gateway r).2)
    (hend : (s.reply p t i 0 r).2.ending = some (.returned (.error e))) : e.IsUnclear := by
  cases hstep : c.resume p t s.gateway r with
  | mk g x =>
      rw [hstep] at hdoubt
      cases x with
      | waiting c' => cases (reply_of_waits hcall hcrash hstep).2.2.symm.trans hend
      | ended ending =>
          cases ending with
          | returned result =>
              have hreturned := (reply_of_returns hcall hcrash hstep).2.2.symm.trans hend
              cases result with
              | ok submission => cases hreturned
              | error e' =>
                  cases hreturned
                  exact hdoubt
          | crashed crash => cases (reply_of_crashes hi hcall hcrash hstep).2.symm.trans hend

/-- A submission that has left no trace so far, and fails with its last answer, leaves none. -/
theorem Traceless.fails {g : Gateway} {e : Failure}
    (h : Traceless p run start i c.request.account k entry (c.stage.isEarly = true))
    (hstart : start ≤ k) (hm : run[k]? = some ⟨t, .event (.reply i 0 r)⟩)
    (hlast : run.length = k + 1)
    (hcall : (upTo p run k).calls.get? i = some (.submit c))
    (hrestores : c.stage.Restores entry ((upTo p run k).gateway.ledgers.get? c.request.account))
    (hcrash : ∀ crash, r ≠ .crashed crash)
    (hstep : c.resume p t (upTo p run k).gateway r = (g, .ended (.returned (.error e))))
    (hconfined : (upTo p run k).gateway.Confined g c.request.account)
    (hrestored : g.ledgers.get? c.request.account = entry) (hcounts : ¬ c.Counts r) :
    LeavesNoTrace p run start i c.request.account := by
  have hgateway : (after p run).gateway = g := by
    rw [← upTo_length, hlast, upTo_succ hm]
    exact (reply_of_returns hcall hcrash hstep).1
  have htotal : (upTo p run start).gateway.Confined (after p run).gateway c.request.account :=
    h.confined.trans (hgateway ▸ hconfined)
  have hentry : (after p run).gateway.ledgers.get? c.request.account = entry := hgateway ▸ hrestored
  -- A moment of the run is the last one, or the submission has gone on after it.
  have hcases : ∀ {j : Nat} {happens : System → Moment → Prop}, At p run j happens →
      j < k ∨ j = k ∧ happens (upTo p run k) ⟨t, .event (.reply i 0 r)⟩ := by
    rintro j happens ⟨m, hj, hhappens⟩
    have hlt : j < run.length := (List.getElem?_eq_some_iff.mp hj).1
    rcases Nat.lt_or_eq_of_le (Nat.le_of_lt_succ (hlast ▸ hlt)) with hlt | rfl
    · exact .inl hlt
    · cases hm.symm.trans hj
      exact .inr ⟨rfl, hhappens⟩
  refine ⟨htotal.watchlist_eq, fun store => ?_, htotal.others, ?_, ?_, ?_⟩
  · refine storeUpTo_of_unwritten store (fun j hj _ r' hwrites => ?_) (by omega) le_rfl
    rcases hcases hwrites with hlt | ⟨-, hnow⟩
    · exact h.unwritten j hj hlt r' hwrites
    · exact not_writes hcall hrestores r' hnow
  · intro j count hj htakes
    rcases hcases htakes with hlt | ⟨-, hnow⟩
    · rw [hentry, h.told j count hj hlt htakes]
    · exact absurd ((takesIn_iff hcall hcrash).mp ⟨count, hnow⟩) hcounts
  · intro hnone
    rw [hentry, h.untold fun j count hj _ => hnone j count hj]
  · intro j hj hfails
    rcases hcases hfails with hlt | ⟨-, hnow⟩
    · exact absurd hfails (h.counted j hj hlt)
    · obtain ⟨hearly, -, -⟩ := fails_of_countFails (p := p) hcall hrestores hnow
      rw [hentry, h.untold (h.none_of_early hearly)]

/-- The last answer, at which the submission fails. -/
theorem Alone.fails {e : Failure} (h : Alone p run start i request k)
    (hroom : LeavesRoom p run request.account) (hi : i < (upTo p run k).opened) (hstart : start ≤ k)
    (hm : run[k]? = some ⟨t, .event (.reply i 0 r)⟩) (hlast : run.length = k + 1)
    (hend : ((upTo p run k).reply p t i 0 r).2.ending = some (.returned (.error e))) :
    LeavesNoTrace p run start i request.account ∨
      e.IsUnclear ∧ ∃ j, At p run j (Unrefused i) := by
  have hcrash : ∀ {c : Submit}, (upTo p run k).calls.get? i = some (.submit c) →
      ∀ crash, r ≠ .crashed crash := by
    rintro c hcall crash rfl
    rcases reply_crashed (p := p) (t := t) hi hcall crash with ⟨-, h⟩ | ⟨-, -, h⟩ <;>
      cases h.symm.trans hend
  cases h with
  | gone h => simp [reply, show (upTo p run k).calls.get? i = none from h] at hend
  | @quiet c entry request_eq get_eq restores traceless =>
      subst request_eq
      rcases c.goes_resume p t (hroom.kept k) (hroom.afterTurn hm get_eq (hcrash get_eq))
        restores (hcrash get_eq) with hgoes | ⟨sent, raw, r', hstage, hr, hdoubt⟩
      · generalize hstep : c.resume p t (upTo p run k).gateway r = y at hgoes
        cases hgoes with
        | waits => cases (reply_of_waits get_eq (hcrash get_eq) hstep).2.2.symm.trans hend
        | fails confined restored uncounted =>
            exact .inl (traceless.fails hstart hm hlast get_eq restores (hcrash get_eq) hstep
              confined restored uncounted)
        | crashes => cases (reply_of_crashes hi get_eq (hcrash get_eq) hstep).2.symm.trans hend
      · exact .inr ⟨unclear_of_ending hi get_eq (hcrash get_eq) hdoubt hend, k, _, hm,
          unrefused_of_concluded get_eq hstage hr⟩
  | @inDoubt c get_eq doubt j lt unrefused =>
      have hunclear := unclear_of_ending hi get_eq (hcrash get_eq)
        (Submit.endsInDoubt_resume doubt) hend
      exact .inr ⟨hunclear, j, unrefused⟩

end

/-- A submission that is begun has done nothing yet. -/
theorem alone_start {request : Request} {t₀ : Timestamp}
    (hm : run[start]? = some ⟨t₀, .event (.start (.submit request))⟩) :
    Alone p run start (upTo p run start).opened request (start + 1) := by
  have hnext := upTo_succ (p := p) hm
  have hgateway : ((upTo p run start).pass p ⟨t₀, .event (.start (.submit request))⟩).gateway =
      (upTo p run start).gateway := rfl
  have htakes : ¬ ∃ count, TakesIn request.account count (upTo p run start)
      ⟨t₀, .event (.start (.submit request))⟩ := by
    rintro ⟨count, htakes⟩
    cases htakes
  have hbegin : Traceless p run start (upTo p run start).opened request.account start
      ((upTo p run start).gateway.ledgers.get? request.account) True := .begin
  refine .quiet (c := Submit.start request (upTo p run start).gateway) ?_ ?_ ?_
    (hbegin.succ le_rfl hm ?_ (fun r hwrites => by cases hwrites) ?_ (fun h => absurd h htakes)
      (fun _ => rfl) (fun _ => ⟨trivial, htakes⟩) (.inr htakes))
  · simp only [Submit.start]
    split <;> rfl
  · simp [hnext, pass, step, System.start, Call.start, enroll]
  · rw [hnext, hgateway]
    simp only [Submit.start]
    split <;> exact rfl
  · rw [hgateway]
    exact .refl _ _
  · rintro ⟨-, now, e, heq⟩
    cases heq

/-- After it has been begun, a submission that runs alone only gets answers. -/
theorem exists_reply_of_alone {ms : List Moment} {request : Request} {t₀ : Timestamp}
    {answers : List (Timestamp × Reply)} {m : Moment} (hk : ms.length < k)
    (hm : (ms ++ request.alone i t₀ answers)[k]? = some m) :
    ∃ t r, m = ⟨t, .event (.reply i 0 r)⟩ := by
  obtain ⟨n, rfl⟩ := Nat.exists_eq_add_of_lt hk
  rw [List.getElem?_append_right (Nat.le_of_lt hk), Nat.add_assoc, Nat.add_sub_cancel_left,
    Request.alone, List.getElem?_cons_succ, List.getElem?_map, Option.map_eq_some_iff] at hm
  obtain ⟨x, -, rfl⟩ := hm
  exact ⟨x.1, x.2, rfl⟩

end

/-- A request that names a nonce. -/
def namingRequest (a : Address) (n : Nat) : Request where
  account := a
  payload := ⟨a, [], 0, 21000⟩
  choice := .named n

/-- What its submission is told until the node refuses it: a count, that the account has been noted,
its turns at the ledger, a price and a signature. -/
def refusedAnswers : List (Timestamp × Reply) :=
  [.count 5, .done, .done, .done, .price (.legacy 1), .signed [], .rejected "underpriced"].map
    fun r => (⟨0⟩, r)

end System

end TxGateway
