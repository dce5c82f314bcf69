import TxGateway.Proofs.NonceCounts

/-!
# Nonces are conserved

Every nonce that is handed out is given back, is cleared when a confirmed count is taken in, or is
pending. The metrics count the first two and measure the last, each at the turn that changes it. So
what they measure of an account agrees with its ledger after every moment of every run, and what
they count does as long as the greatest nonce is not pending: a ledger that begins again at 0 hands
out a nonce that is pending already. A call that fails, or whose wish is passed over, changes
neither side.
-/

namespace TxGateway

open Metrics

namespace Ledger

variable {l : Ledger}

theorem Ordered.length_pending (h : l.Ordered) : l.pending.length = l.book.held.card :=
  (List.toFinset_card_of_nodup (h.ascending.imp Nat.ne_of_lt)).symm

/-- A nonce that is granted is one more that is pending. -/
theorem Kept.length_pending_obtain (h : l.Kept) (now : Timestamp) {choice : NonceChoice}
    (hgrants : l.Grants choice) :
    (Turn.apply now l (.obtain choice)).pending.length = l.pending.length + 1 := by
  rw [(h.toOrdered.turn now _).length_pending, h.book_turn, h.length_pending]
  cases choice with
  | next =>
      have hs : l.seeded = true := hgrants
      rw [Book.take, if_pos hs]
      exact Finset.card_insert_of_notMem l.book.isLeast_free.1.2
  | named n =>
      obtain ⟨hs, hle, hn⟩ := hgrants
      have hfree : n ∉ l.book.held := mt (l.mem_book n).mp hn
      rw [Book.take, if_pos ⟨hs, hle, hfree⟩]
      exact Finset.card_insert_of_notMem hfree

/-- A request that is not granted leaves the ledger as it is. -/
theorem apply_of_not_grants (l : Ledger) (now : Timestamp) {choice : NonceChoice}
    (hgrants : ¬ l.Grants choice) : Turn.apply now l (.obtain choice) = l := by
  by_cases hs : l.seeded = true
  · cases choice with
    | next => exact absurd hs hgrants
    | named n =>
        simp only [Turn.apply, hs, claim_of_not_grants hs hgrants, Bool.not_true,
          Bool.false_eq_true, if_false]
  · simp [Turn.apply, hs]

/-- A pending nonce that is given back is one less that is pending. -/
theorem Kept.length_pending_giveBack (h : l.Kept) (now : Timestamp) {n : Nat}
    (hn : n ∈ l.pending) :
    (Turn.apply now l (.giveBack n)).pending.length + 1 = l.pending.length := by
  rw [(h.toOrdered.turn now _).length_pending, h.book_turn, h.length_pending]
  exact Finset.card_erase_add_one ((l.mem_book n).mpr hn)

/-- How many nonces are pending in one ledger and not in another. -/
def cleared (l t : Ledger) : Nat := (l.pending.toFinset \ t.pending.toFinset).card

/-- A confirmed count clears some pending nonces and leaves the others. -/
theorem Kept.cleared_confirm (h : l.Kept) (now : Timestamp) (count : Nat) :
    l.cleared (l.confirm now count) + (l.confirm now count).pending.length = l.pending.length := by
  have hsub : (l.confirm now count).book.held ⊆ l.book.held := by
    rw [(h.confirm now count).2]
    exact Finset.filter_subset _ _
  rw [(h.confirm now count).1.length_pending, h.length_pending]
  exact Finset.card_sdiff_add_card_eq_card hsub

end Ledger

/-- How many pending nonces a turn at a ledger clears. -/
def Turn.cleared (now : Timestamp) (l : Ledger) : Turn → Nat
  | confirm count => l.cleared (l.confirm now count)
  | _ => 0

namespace NonceCounts

/-- What the metrics count of an account agrees with its ledger, if so many of its pending nonces
have been cleared: every nonce handed out has been given back or cleared, or is pending. -/
def Fits (c : NonceCounts) (l : Ledger) (cleared : Nat) : Prop :=
  c.allocated = c.released + cleared + l.pending.length

/-- What the metrics have measured of an account, if anything, is how many nonces are pending. -/
def Gauges (c : NonceCounts) (l : Ledger) : Prop := ∀ n, c.measured = some n → n = l.pending.length

variable {c : NonceCounts} {l : Ledger} {cleared : Nat}

/-- What the metrics count fits the ledger after a turn at it. -/
theorem Fits.turn (h : c.Fits l cleared) (hk : l.Kept) (now : Timestamp) (t : Turn) :
    (t.recount now l c).Fits (t.apply now l) (cleared + t.cleared now l) := by
  have hall : c.allocated = c.released + cleared + l.pending.length := h
  cases t with
  | confirm count =>
      have hcleared := hk.cleared_confirm now count
      simp only [Fits, Turn.recount, Turn.counted?, Turn.apply, Turn.cleared, note, reduceCtorEq,
        if_false]
      omega
  | obtain choice =>
      by_cases hgrants : l.Grants choice
      · have hlength := hk.length_pending_obtain now hgrants
        rw [Turn.recount_of_grants now c hgrants]
        simp only [Fits, Turn.cleared, note, reduceCtorEq, if_true, if_false]
        omega
      · rw [Turn.recount_of_not_grants now c hgrants, l.apply_of_not_grants now hgrants]
        exact h
  | giveBack n =>
      by_cases hn : n ∈ l.pending
      · have hlength := hk.length_pending_giveBack now hn
        simp only [Fits, Turn.recount, Turn.counted?, if_pos hn, Turn.cleared, note, reduceCtorEq,
          if_true, if_false]
        omega
      · have hsame : (l.giveBack? n).getD l = l := by simp [Ledger.giveBack?, hn]
        simp only [Turn.recount, Turn.counted?, if_neg hn, Turn.apply, hsame, Turn.cleared]
        exact h
  | expire => exact h

/-- What is measured at a turn that counts as an event is how many are pending after it. -/
theorem Gauges.of_note {f : Family} : (c.note f l.pending.length).Gauges l :=
  fun _ hn => (Option.some.inj hn).symm

/-- What the metrics have measured is so after a turn, whatever has been handed out. -/
theorem Gauges.turn (h : c.Gauges l) (now : Timestamp) (t : Turn) :
    (t.recount now l c).Gauges (t.apply now l) := by
  cases t with
  | confirm count => exact .of_note
  | obtain choice =>
      by_cases hgrants : l.Grants choice
      · rw [Turn.recount_of_grants now c hgrants]
        exact .of_note
      · rw [Turn.recount_of_not_grants now c hgrants, l.apply_of_not_grants now hgrants]
        exact h
  | giveBack n =>
      by_cases hn : n ∈ l.pending
      · rw [Turn.recount, Turn.counted?, if_pos hn]
        exact .of_note
      · have hsame : (l.giveBack? n).getD l = l := by simp [Ledger.giveBack?, hn]
        simp only [Turn.recount, Turn.counted?, if_neg hn, Turn.apply, hsame]
        exact h
  | expire => exact h

end NonceCounts

/-- A turn at which nothing is granted, taken back or taken in. -/
def Turn.IsIdle (l : Ledger) : Turn → Prop
  | confirm _ => False
  | obtain choice => ¬ l.Grants choice
  | giveBack n => n ∉ l.pending
  | expire => True

/-- An idle turn leaves what is pending and what is told of it as they are. -/
theorem Turn.IsIdle.unchanged {t : Turn} {l : Ledger} (h : t.IsIdle l) (now : Timestamp)
    (c : NonceCounts) : (t.apply now l).pending = l.pending ∧ t.recount now l c = c := by
  cases t with
  | confirm count => exact h.elim
  | obtain choice =>
      rw [l.apply_of_not_grants now h, recount_of_not_grants now c h]
      exact ⟨rfl, rfl⟩
  | giveBack n =>
      have hn : n ∉ l.pending := h
      have hsame : (l.giveBack? n).getD l = l := by simp [Ledger.giveBack?, hn]
      simp only [apply, hsame, recount, counted?, if_neg hn, and_self]
  | expire => exact ⟨rfl, rfl⟩

/-- What is counted as an event is measured; nothing is forgotten by any other turn. -/
theorem NonceCounts.measured_recount {c : NonceCounts} {t : Turn} {l : Ledger} (now : Timestamp)
    (h : c.measured ≠ none ∨ t.counted? l ≠ none) : (t.recount now l c).measured ≠ none := by
  rw [Turn.recount]
  split
  · exact Option.some_ne_none _
  · rename_i hnone
    exact h.resolve_right (absurd hnone)

theorem Gateway.grants_iff (g : Gateway) (a : Address) (choice : NonceChoice) :
    (∃ n, (g.obtain a choice).2 = some (.ok n)) ↔ (g.ledger a).Grants choice := by
  cases hs : (g.ledger a).seeded with
  | false => cases choice <;> simp [obtain, Ledger.Grants, hs]
  | true =>
      cases choice with
      | next => simp [obtain, Ledger.Grants, hs]
      | named n =>
          by_cases hgrants : (g.ledger a).Grants (.named n)
          · simp [obtain, hs, Ledger.claim_of_grants hgrants, hgrants]
          · simp [obtain, hs, Ledger.claim_of_not_grants hs hgrants, hgrants]

namespace System

variable {p : Policy} {s : System} {m : Moment} {a : Address} {n : Nat}

/-- How many pending nonces of an account a moment clears by taking a confirmed count in. -/
def cleared (p : Policy) (a : Address) (s : System) (m : Moment) : Nat :=
  match s.turn? m with
  | some (b, .confirm _) =>
    if b = a then (s.gateway.ledger a).cleared ((s.pass p m).gateway.ledger a) else 0
  | _ => 0

/-- How many pending nonces of an account a list of moments clears, one after another. -/
def clearedBy (p : Policy) (a : Address) : System → List Moment → Nat
  | _, [] => 0
  | s, m :: ms => s.cleared p a m + (s.pass p m).clearedBy p a ms

/-- A nonce of an account is handed out, or a confirmed count is taken into its ledger. -/
def Measures (a : Address) (s : System) (m : Moment) : Prop :=
  (∃ n, HandsOut a n s m) ∨ ∃ count, TakesIn a count s m

theorem cleared_of_turn {t : Turn} (h : s.turn? m = some (a, t)) :
    s.cleared p a m = t.cleared m.now (s.gateway.ledger a) := by
  have hledger := ledger_pass p s m a
  rw [h, Gateway.afterTurn_some, if_pos rfl] at hledger
  cases t with
  | confirm count =>
      simp only [cleared, h, if_true, hledger]
      rfl
  | _ => simp only [cleared, h, Turn.cleared]

theorem cleared_of_elsewhere (h : ∀ t, s.turn? m ≠ some (a, t)) : s.cleared p a m = 0 := by
  rw [cleared]
  split
  · rename_i b count hturn
    rw [if_neg]
    rintro rfl
    exact h _ hturn
  · rfl

/-- A moment that gives no turn at the ledger of an account leaves the ledger and what the metrics
tell of it as they are. -/
theorem unchanged_of_elsewhere (p : Policy) (h : ∀ t, s.turn? m ≠ some (a, t)) :
    (s.pass p m).gateway.ledger a = s.gateway.ledger a ∧
      (s.pass p m).gateway.counts a = s.gateway.counts a := by
  rw [ledger_pass, counts_pass]
  cases hturn : s.turn? m with
  | none => exact ⟨rfl, rfl⟩
  | some turn =>
      obtain ⟨b, t⟩ := turn
      have hne : a ≠ b := by
        rintro rfl
        exact h t hturn
      exact ⟨if_neg hne, if_neg hne⟩

/-- What a moment does that gives a turn at the ledger of an account. -/
theorem changed_of_turn (p : Policy) {t : Turn} (h : s.turn? m = some (a, t)) :
    (s.pass p m).gateway.ledger a = t.apply m.now (s.gateway.ledger a) ∧
      (s.pass p m).gateway.counts a =
        t.recount m.now (s.gateway.ledger a) (s.gateway.counts a) := by
  rw [ledger_pass, counts_pass, h]
  exact ⟨if_pos rfl, if_pos rfl⟩

/-- A moment gives a turn at the ledger of an account, and only that turn changes the ledger and
what the metrics tell of it. -/
theorem changed_or_unchanged (p : Policy) (s : System) (m : Moment) (a : Address) :
    (∃ t, s.turn? m = some (a, t) ∧
      (s.pass p m).gateway.ledger a = t.apply m.now (s.gateway.ledger a) ∧
      (s.pass p m).gateway.counts a =
        t.recount m.now (s.gateway.ledger a) (s.gateway.counts a)) ∨
    (∀ t, s.turn? m ≠ some (a, t)) ∧ (s.pass p m).gateway.ledger a = s.gateway.ledger a ∧
      (s.pass p m).gateway.counts a = s.gateway.counts a := by
  by_cases hturn : ∃ t, s.turn? m = some (a, t)
  · obtain ⟨t, hturn⟩ := hturn
    exact .inl ⟨t, hturn, changed_of_turn p hturn⟩
  · rw [not_exists] at hturn
    exact .inr ⟨hturn, unchanged_of_elsewhere p hturn⟩

/-- What the metrics count fits the ledger after any moment. -/
theorem fits_pass (h : (s.gateway.counts a).Fits (s.gateway.ledger a) n)
    (hk : (s.gateway.ledger a).Kept) :
    ((s.pass p m).gateway.counts a).Fits ((s.pass p m).gateway.ledger a)
      (n + s.cleared p a m) := by
  rcases changed_or_unchanged p s m a with
    ⟨t, hturn, hledger, hcounts⟩ | ⟨helsewhere, hledger, hcounts⟩
  · rw [hledger, hcounts, cleared_of_turn hturn]
    exact h.turn hk m.now t
  · rw [hledger, hcounts, cleared_of_elsewhere helsewhere]
    exact h

/-- What the metrics count fits the ledger after a list of moments in which it is kept. -/
theorem fits_run (ms : List Moment) (h : (s.gateway.counts a).Fits (s.gateway.ledger a) n)
    (hk : ∀ k, (((ms.take k).foldl (pass p) s).gateway.ledger a).Kept) :
    ((ms.foldl (pass p) s).gateway.counts a).Fits ((ms.foldl (pass p) s).gateway.ledger a)
      (n + s.clearedBy p a ms) := by
  induction ms generalizing s n with
  | nil => exact h
  | cons m ms ih =>
      rw [clearedBy, ← Nat.add_assoc]
      exact ih (fits_pass h (hk 0)) fun k => hk (k + 1)

theorem LeavesRoom.fits_after {ms : List Moment} (hroom : LeavesRoom p ms a) :
    ((after p ms).gateway.counts a).Fits ((after p ms).gateway.ledger a)
      (clearedBy p a {} ms) := by
  have hrun := fits_run (p := p) (n := 0) (s := {}) ms rfl hroom.kept
  rwa [Nat.zero_add] at hrun

/-- After every run the metrics have measured how many nonces are pending. -/
theorem gauges_after (p : Policy) (ms : List Moment) (a : Address) :
    ((after p ms).gateway.counts a).Gauges ((after p ms).gateway.ledger a) := by
  apply after_induction (P := fun s => (s.gateway.counts a).Gauges (s.gateway.ledger a)) ms
  · intro n hn
    cases hn
  · intro m _ s h
    rcases changed_or_unchanged p s m a with ⟨t, -, hledger, hcounts⟩ | ⟨-, hledger, hcounts⟩
    · rw [hledger, hcounts]
      exact h.turn m.now t
    · rw [hledger, hcounts]
      exact h

/-- What has been measured of an account stays measured. -/
theorem measured_pass (h : (s.gateway.counts a).measured ≠ none) :
    ((s.pass p m).gateway.counts a).measured ≠ none := by
  rcases changed_or_unchanged p s m a with ⟨t, -, -, hcounts⟩ | ⟨-, -, hcounts⟩
  · rw [hcounts]
    exact NonceCounts.measured_recount m.now (.inl h)
  · rw [hcounts]
    exact h

theorem measured_of_measures (h : Measures a s m) :
    ((s.pass p m).gateway.counts a).measured ≠ none := by
  rcases h with ⟨n, choice, hturn, hgot⟩ | ⟨count, hturn⟩
  · have hgrants := (s.gateway.grants_iff a choice).mp ⟨n, hgot⟩
    rw [(changed_of_turn p hturn).2]
    apply NonceCounts.measured_recount m.now
    rw [Turn.counted?, if_pos hgrants]
    exact .inr (Option.some_ne_none _)
  · rw [(changed_of_turn p hturn).2]
    exact Option.some_ne_none _

/-- A moment gives no turn at the ledger of an account, or an idle one. -/
def Idle (a : Address) (s : System) (m : Moment) : Prop :=
  ∀ t, s.turn? m = some (a, t) → t.IsIdle (s.gateway.ledger a)

/-- An idle moment leaves the pending nonces and what the metrics tell of them as they are. -/
theorem Idle.unchanged (h : Idle a s m) (p : Policy) :
    (s.pass p m).gateway.pendingNonces a = s.gateway.pendingNonces a ∧
      (s.pass p m).gateway.counts a = s.gateway.counts a := by
  rw [Gateway.pendingNonces, Gateway.pendingNonces]
  rcases changed_or_unchanged p s m a with
    ⟨t, hturn, hledger, hcounts⟩ | ⟨-, hledger, hcounts⟩
  · rw [hledger, hcounts]
    exact (h t hturn).unchanged m.now _
  · rw [hledger, hcounts]
    exact ⟨rfl, rfl⟩

/-- A moment is idle if no nonce of the account is handed out or taken back at it, and no confirmed
count is taken in. -/
theorem idle_of_not (hmeasures : ¬ Measures a s m) (hback : ∀ n, ¬ TakesBack p a n s m) :
    Idle a s m := by
  intro t hturn
  cases t with
  | confirm count => exact hmeasures (.inr ⟨count, hturn⟩)
  | obtain choice =>
      intro hgrants
      obtain ⟨n, hgot⟩ := (s.gateway.grants_iff a choice).mpr hgrants
      exact hmeasures (.inl ⟨n, choice, hturn, hgot⟩)
  | giveBack n =>
      intro hn
      refine hback n ⟨hturn, hn, ?_⟩
      rw [Gateway.pendingNonces, (changed_of_turn p hturn).1, Turn.apply, Ledger.giveBack?,
        if_pos hn]
      simp
  | expire => trivial

end System

/-- Whether a task is about the nonces of one account and nothing else. -/
def Task.IsAboutNonces : Task → Prop
  | .reconcile _ | .obtain .. | .giveBack .. | .expire _ => True
  | _ => False

/-- Whether a call is about the nonces of one account and nothing else. -/
def Call.IsAboutNonces : Call → Prop
  | reconcile .. | obtain .. | giveBack .. | expire _ => True
  | _ => False

section

variable {now : Timestamp} {g : Gateway} {reply : Reply} {e : Failure} {t : Turn}

theorem Reconcile.turn?_of_failed {r : Reconcile} {a : Address}
    (h : (r.resume a now g reply).2 = .ended (.error e)) : r.turn? reply = none := by
  cases r with
  | asking => rfl
  | applying count => cases reply <;> first | rfl | cases h

theorem Obtain.turn?_of_failed {o : Obtain} {a : Address} {choice : NonceChoice}
    (h : (o.resume a choice now g reply).2 = .ended (.error e)) :
    ∀ t, o.turn? choice reply = some t → t.IsIdle (g.ledger a) := by
  intro t ht
  cases o with
  | turn =>
      cases reply with
      | done =>
          cases ht
          -- A nonce that is granted would have ended the call otherwise.
          intro hgrants
          obtain ⟨n, hgot⟩ := (g.grants_iff a choice).mpr hgrants
          simp only [resume] at h
          split at h
          · rename_i hobtain
            rw [hobtain] at hgot
            cases hgot
            cases h
          · cases h
      | _ => cases ht
  | seeding r =>
      have hnone : r.turn? reply = none := by
        simp only [resume] at h
        split at h
        · cases h
        · cases h
        · rename_i hr
          exact r.turn?_of_failed (congrArg Prod.snd hr)
      rw [turn?, hnone] at ht
      cases ht

/-- What ends with a failure as a call has failed itself. -/
theorem Progress.failed_of_map {σ τ α β : Type} {x : Progress σ (Except Failure α)} {f : σ → τ}
    {k : α → β} (h : x.map f (Ending.ofResult k) = .ended (.returned (.error e))) :
    x = .ended (.error e) := by
  cases x with
  | waiting c => cases h
  | ended result =>
      cases result with
      | ok a => cases h
      | error e' =>
          cases h
          rfl

/-- A call about nonces that fails has had no turn, or an idle one. -/
theorem Call.turnOf?_of_failed {p : Policy} {c : Call} {slot : Nat} (hc : c.IsAboutNonces)
    (h : (c.proceed p now g slot reply).2 = .ended (.returned (.error e))) :
    ∀ a t, c.turnOf? slot reply = some (a, t) → t.IsIdle (g.ledger a) := by
  intro a t ht
  cases c with
  | reconcile b stage =>
      rw [turnOf?, stage.turn?_of_failed (Progress.failed_of_map h)] at ht
      cases ht
  | obtain b choice stage =>
      obtain ⟨t', hturn, heq⟩ := Option.map_eq_some_iff.mp ht
      cases heq
      exact stage.turn?_of_failed (Progress.failed_of_map h) t hturn
  | giveBack b n =>
      cases ht
      -- Only an account without a ledger makes it fail.
      cases hget : g.ledgers.get? a with
      | none =>
          have hempty : g.ledger a = {} := by simp [Gateway.ledger, hget]
          rw [hempty]
          exact List.not_mem_nil
      | some l =>
          simp only [proceed, Gateway.giveBack, hget] at h
          split at h <;> cases h
  | expire b => cases h
  | _ => exact hc.elim

end

namespace System

variable {p : Policy} {s : System} {m : Moment}

/-- A call about nonces fails at a moment. -/
def FailsAboutNonces (p : Policy) (s : System) (m : Moment) : Prop :=
  ∃ event failure, m.what = .event event ∧
    (s.step p m.now event).2.ending = some (.returned (.error failure)) ∧
    match event with
    | .start t => t.IsAboutNonces
    | .reply i _ _ => ∃ c, s.calls.get? i = some c ∧ c.IsAboutNonces
    | .abandon _ => False

/-- A moment at which a call about nonces fails is idle for every account. -/
theorem FailsAboutNonces.idle (h : FailsAboutNonces p s m) (a : Address) : Idle a s m := by
  obtain ⟨event, failure, hwhat, hending, habout⟩ := h
  intro t ht
  simp only [System.turn?, hwhat] at ht
  cases event with
  | start task => cases ht
  | abandon i => cases ht
  | reply i slot reply =>
      obtain ⟨c, hget, hc⟩ := habout
      simp only [step, System.reply, hget] at hending
      simp only [hget, Option.bind_some] at ht
      have hfailed : (c.resume p m.now s.gateway slot reply).2 =
          .ended (.returned (.error failure)) := by
        split at hending
        · cases hending
        · cases hending
        · rename_i hresume
          rw [hresume, Option.some.inj hending]
      cases reply with
      | crashed crash => cases ht
      | _ => exact c.turnOf?_of_failed hc hfailed a t ht

/-- In a run the metrics agree with the ledger of an account. -/
structure NoncesAccounted (p : Policy) (ms : List Moment) (a : Address) : Prop where
  /-- Every nonce handed out has been given back, has been cleared by a confirmed count, or is
  pending, unless the greatest one has been pending. -/
  allocated_eq : LeavesRoom p ms a →
    (after p ms).gateway.metrics.value .noncesAllocated (.account a) =
      (after p ms).gateway.metrics.value .noncesReleased (.account a) + clearedBy p a {} ms +
        ((after p ms).gateway.pendingNonces a).length
  /-- Once a nonce has been handed out or a confirmed count taken in, the gauge tells how many are
  pending. -/
  gauge_eq : (∃ k, At p ms k (Measures a)) →
    (after p ms).gateway.metrics.value? .pendingNonces (.account a) =
      some ((after p ms).gateway.pendingNonces a).length
  /-- A moment that does neither, and takes nothing back, changes neither side. -/
  unchanged : ∀ k m, ms[k]? = some m → ¬ Measures a (upTo p ms k) m →
    (∀ n, ¬ TakesBack p a n (upTo p ms k) m) →
      (upTo p ms (k + 1)).gateway.pendingNonces a = (upTo p ms k).gateway.pendingNonces a ∧
        (upTo p ms (k + 1)).gateway.counts a = (upTo p ms k).gateway.counts a
  /-- Nor does a moment at which a call about nonces fails. -/
  failed : ∀ k, At p ms k (FailsAboutNonces p) →
    (upTo p ms (k + 1)).gateway.pendingNonces a = (upTo p ms k).gateway.pendingNonces a ∧
      (upTo p ms (k + 1)).gateway.counts a = (upTo p ms k).gateway.counts a

/-- A run in which an account is told the count 5 and hands out two nonces, the first of which the
count 6 clears. -/
def clearingRun (a : Address) : List Moment :=
  [.start (.obtain a .next), .reply 0 0 .done, .reply 0 0 (.count 5), .reply 0 0 .done,
    .reply 0 0 .done, .start (.obtain a .next), .reply 1 0 .done, .start (.reconcile a),
    .reply 2 0 (.count 6), .reply 2 0 .done].map fun e => ⟨⟨0⟩, .event e⟩

end System

end TxGateway
