import TxGateway.Proofs.Asking
import TxGateway.Proofs.Watching

/-!
# A final status is announced once and stays

Any number of polls of one transaction ask the chain at the same time, and each gets its answer
whenever it comes; the answers may contradict each other. The first one that settles the outcome
makes the record final and says so. From then on every poll tells that outcome, nothing more is
asked, and the outcome has been counted once.
-/

namespace TxGateway

/-- What can happen to a gateway when transactions are also entered directly. -/
inductive Occurrence
  /-- A moment of a run. -/
  | moment (m : Moment)
  /-- A transaction is entered. -/
  | watch (r : Record)

/-- Whether stored records are left alone. -/
def Occurrence.RestoresNothing (x : Occurrence) : Prop :=
  ∀ now held, x ≠ .moment ⟨now, .event (.start (.recover held))⟩

section

variable {g t : Gateway} {h : TxHash} {r r' : Record}
  {y : Option (TxHash × Watchlist.Observation)}

/-- The outcome that the answer of a poll makes known, with its transaction. -/
def announced : Option (TxHash × Watchlist.Observation) → List (TxHash × String)
  | some (h, o) => if o.changed = true then [(h, o.record.status.label)] else []
  | none => []

/-- What the answer of a poll makes known about one transaction. -/
theorem filter_announced (label : String) {P : Prop} [Decidable P]
    (hall : ∀ o, y = some (h, o) → (o.changed = true ↔ P))
    (hone : P → ∃ o, y = some (h, o) ∧ o.record.status.label = label) :
    (announced y).filter (fun a => decide (a.1 = h)) = if P then [(h, label)] else [] := by
  by_cases hP : P
  · obtain ⟨o, rfl, hlabel⟩ := hone hP
    simp [announced, (hall o rfl).mpr hP, hlabel, hP]
  · rw [if_neg hP]
    match y, hall with
    | none, _ => rfl
    | some (k, o), hall =>
        by_cases hk : k = h
        · subst hk
          simp [announced, (hall o rfl).not.mpr hP]
        · simp only [announced]
          split <;> simp [hk]

/-- Each outcome that is made known is counted. -/
theorem Alters.outcomes_eq (ha : Alters g t y) (label : String) :
    t.outcomes label = g.outcomes label + (announced y).countP fun e => decide (e.2 = label) := by
  cases ha with
  | same still => exact still.outcomes_eq label
  | enter entered outcomes_eq => exact outcomes_eq label
  | purge purged outcomes_eq => exact outcomes_eq label
  | poll polled outcomes_eq =>
      rename_i o
      rw [outcomes_eq, announced]
      by_cases hchanged : o.changed = true
      · by_cases hlabel : o.record.status.label = label <;> simp [hchanged, hlabel]
      · simp [hchanged]

/-- A poll tells whether it changes the status, and it changes that of a live record only. -/
theorem Watchlist.status_of_polled {w w' : Watchlist} {now : Timestamp} {status : Status}
    {o : Observation} (hp : w.polled? h now status = some (w', o)) (hr : w.lookup? h = some r) :
    (o.changed = true ↔ o.record.status ≠ r.status) ∧
      (o.record.status ≠ r.status → r.status = .pending) := by
  obtain ⟨r', hr', -, -, hrecord, hchanged⟩ := polled?_eq_some hp
  cases hr.symm.trans hr'
  have hstatus : o.record.status = if r.isLive then status else r.status := by rw [hrecord]
  cases hlive : r.isLive with
  | true =>
      have hpending := Record.status_of_isLive hlive
      rw [hlive, if_pos rfl] at hstatus
      rw [hlive, Bool.true_and] at hchanged
      refine ⟨?_, fun _ => hpending⟩
      rw [hchanged, hstatus, hpending]
      cases status <;> simp [Status.isFinal]
  | false =>
      rw [hlive, if_neg Bool.false_ne_true] at hstatus
      rw [hlive, Bool.false_and] at hchanged
      simp [hchanged, hstatus]

/-- What a step does to a watched record that it does not remove. Only a poll of a live record
changes its status, and it tells whether it has done so. -/
theorem Alters.status_cases (ha : Alters g t y) (hr : g.watchlist.lookup? h = some r)
    (hr' : t.watchlist.lookup? h = some r') :
    (∀ o, y = some (h, o) → r' = o.record ∧ (o.changed = true ↔ r'.status ≠ r.status)) ∧
      (r'.status ≠ r.status → r.status = .pending ∧ ∃ o, y = some (h, o)) := by
  have hkeep (heq : t.watchlist.lookup? h = g.watchlist.lookup? h) : r' = r := by
    rw [heq, hr] at hr'
    exact (Option.some.inj hr').symm
  have hquiet (heq : r' = r) (hy : ∀ o, y ≠ some (h, o)) :
      (∀ o, y = some (h, o) → r' = o.record ∧ (o.changed = true ↔ r'.status ≠ r.status)) ∧
        (r'.status ≠ r.status → r.status = .pending ∧ ∃ o, y = some (h, o)) :=
    ⟨fun o ho => absurd ho (hy o), fun hne => absurd (by rw [heq]) hne⟩
  cases ha with
  | same still => exact hquiet (hkeep (by rw [still.watchlist_eq])) fun _ ho => by cases ho
  | enter entered outcomes_eq =>
      obtain ⟨hnew, hlookup⟩ := Watchlist.lookup?_of_enter entered
      refine hquiet (hkeep ?_) fun _ ho => by cases ho
      rw [hlookup]
      refine if_neg fun heq => ?_
      rw [← heq, hr] at hnew
      cases hnew
  | purge purged outcomes_eq =>
      refine hquiet ?_ fun _ ho => by cases ho
      rw [purged, Watchlist.lookup?_purge, hr, Option.filter_eq_some_iff] at hr'
      exact (Option.some.inj hr'.1).symm
  | @poll k now status o polled outcomes_eq =>
      have hlookup := Watchlist.lookup?_of_polled polled h
      by_cases hk : h = k
      · subst hk
        obtain ⟨hchanged, hpending⟩ := Watchlist.status_of_polled polled hr
        rw [if_pos rfl, hr'] at hlookup
        cases hlookup
        refine ⟨fun o' ho' => ?_, fun hne => ⟨hpending hne, o, rfl⟩⟩
        cases ho'
        exact ⟨rfl, hchanged⟩
      · rw [if_neg hk] at hlookup
        refine hquiet (hkeep hlookup) fun o' ho' => ?_
        cases ho'
        exact hk rfl

end

namespace System

variable {p : Policy} {s : System} {x : Occurrence} {xs : List Occurrence} {h : TxHash}
  {status : Status} {i k slot : Nat}

/-- The system after an occurrence. -/
def undergo (p : Policy) (s : System) : Occurrence → System
  | .moment m => s.pass p m
  | .watch r => { s with gateway := (s.gateway.watch r).1 }

/-- The system after a list of occurrences. -/
def through (p : Policy) (s : System) (xs : List Occurrence) : System := xs.foldl (undergo p) s

/-- The answer of the poll that an occurrence ends, if it ends one. -/
def answer? (p : Policy) (s : System) : Occurrence → Option (TxHash × Watchlist.Observation)
  | .moment ⟨now, .event (.reply i slot reply)⟩ =>
    (s.calls.get? i).bind fun c => c.answer? p now s.gateway slot reply
  | _ => none

/-- The outcomes that polls make known, in their order. -/
def announcements (p : Policy) (s : System) : List Occurrence → List (TxHash × String)
  | [] => []
  | x :: xs => announced (s.answer? p x) ++ (s.undergo p x).announcements p xs

/-- No recovery is in progress. -/
def NoRecovery (s : System) : Prop := ∀ i c, s.calls.get? i = some c → ¬ c.IsRecovery

/-- A transaction is watched, with a status. -/
def HasStatus (h : TxHash) (status : Status) (s : System) : Prop :=
  ∃ r, s.gateway.watchlist.lookup? h = some r ∧ r.status = status

/-- A call asks the chain for a transaction, under a number. -/
def Asks (i slot : Nat) (h : TxHash) (s : System) : Prop :=
  ∃ c q, s.calls.get? i = some c ∧ c.asking? slot = some q ∧ q.hash = h

theorem through_take_succ (hx : xs[k]? = some x) :
    s.through p (xs.take (k + 1)) = (s.through p (xs.take k)).undergo p x := by
  obtain ⟨hk, rfl⟩ := List.getElem?_eq_some_iff.mp hx
  rw [through, List.take_succ_eq_append_getElem hk, List.foldl_append]
  rfl

theorem announcements_append (xs ys : List Occurrence) :
    s.announcements p (xs ++ ys) = s.announcements p xs ++ (s.through p xs).announcements p ys := by
  induction xs generalizing s with
  | nil => rfl
  | cons x xs ih =>
      simp only [List.cons_append, announcements, ih, List.append_assoc]
      rfl

theorem announcements_take_succ (hx : xs[k]? = some x) :
    s.announcements p (xs.take (k + 1)) =
      s.announcements p (xs.take k) ++ announced ((s.through p (xs.take k)).answer? p x) := by
  obtain ⟨hk, rfl⟩ := List.getElem?_eq_some_iff.mp hx
  rw [List.take_succ_eq_append_getElem hk, announcements_append]
  simp only [announcements, List.append_nil]

theorem alters_reply (hs : s.NoRecovery) (now : Timestamp) (i slot : Nat) (reply : Reply) :
    Alters s.gateway (s.reply p now i slot reply).1.gateway
      ((s.calls.get? i).bind fun c => c.answer? p now s.gateway slot reply) := by
  cases hget : s.calls.get? i with
  | none =>
      simp only [System.reply, hget, Option.bind_none]
      exact .same (.refl _)
  | some c =>
      have halters := c.alters_resume p now s.gateway (hs i c hget) slot reply
      simp only [System.reply, hget, Option.bind_some]
      split <;> rename_i hd
      · simpa [hd] using halters
      · have hcrashed := Call.alters_of_crashed (hs i c hget) hd
        simpa [gateway_abandon, hget] using hcrashed
      · simpa [hd] using halters

theorem alters_undergo (hs : s.NoRecovery) (x : Occurrence) :
    Alters s.gateway (s.undergo p x).gateway (s.answer? p x) := by
  cases x with
  | watch r => exact s.gateway.alters_watch r
  | moment m =>
      obtain ⟨now, what⟩ := m
      cases what with
      | event e =>
          cases e with
          | start t =>
              have halters := Call.alters_start p now s.gateway t
              simp only [undergo, pass, step, start, answer?]
              split <;> simpa [*] using halters
          | reply i slot reply => exact alters_reply hs now i slot reply
          | abandon i =>
              simp only [undergo, pass, step, answer?, gateway_abandon]
              split
              · exact .same (.refl _)
              · exact Call.alters_abandon s.gateway _
      | evict olderThan =>
          simp only [undergo, pass, answer?]
          split
          · exact Gateway.evict_cases ‹_›
          · exact .same (.refl _)
      | close => exact .same ⟨rfl, fun _ => rfl⟩

theorem noRecovery_undergo (hs : s.NoRecovery) (hx : x.RestoresNothing) :
    (s.undergo p x).NoRecovery := by
  intro i c hget hc
  cases x with
  | watch r => exact hs i c hget hc
  | moment m =>
      cases comes_of_get?_pass hget with
      | stays hwas => exact hs i c hwas hc
      | resumes hwhat hbefore hresume _ =>
          exact hs i _ hbefore (Call.isRecovery_of_resume hresume hc)
      | starts hwhat heq hstart _ =>
          obtain ⟨held, rfl⟩ := Call.isRecovery_of_start hstart hc
          obtain ⟨now, what⟩ := m
          cases hwhat
          exact hx now held rfl
      | chore heq hle =>
          subst heq
          exact hc

theorem noRecovery_through (hs : s.NoRecovery) (hxs : ∀ x ∈ xs, x.RestoresNothing) :
    (s.through p xs).NoRecovery := by
  induction xs generalizing s with
  | nil => exact hs
  | cons x xs ih =>
      exact ih (noRecovery_undergo hs (hxs x List.mem_cons_self)) fun y hy =>
        hxs y (List.mem_cons_of_mem x hy)

/-- A transaction that is asked for has been asked for before, or it is live. -/
theorem asks_of_undergo (hasks : Asks i slot h (s.undergo p x)) :
    Asks i slot h s ∨ HasStatus h .pending (s.undergo p x) := by
  obtain ⟨c, q, hget, hq, rfl⟩ := hasks
  cases x with
  | watch r => exact .inl ⟨c, q, hget, hq, rfl⟩
  | moment m =>
      cases comes_of_get?_pass hget with
      | stays hwas => exact .inl ⟨c, q, hwas, hq, rfl⟩
      | resumes hwhat hbefore hresume hgateway =>
          rcases Call.asking_of_resume hresume hq with ⟨q', hq', hhash⟩ | ⟨r, hr, hlive⟩
          · exact .inl ⟨_, q', hbefore, hq', hhash⟩
          · exact .inr ⟨r, by rw [undergo, hgateway]; exact hr, Record.status_of_isLive hlive⟩
      | starts hwhat heq hstart hgateway =>
          obtain ⟨r, hr, hlive⟩ := Call.asking_of_start hstart hq
          exact .inr ⟨r, by rw [undergo, hgateway]; exact hr, Record.status_of_isLive hlive⟩
      | chore heq hle =>
          subst heq
          cases hq

theorem counted_through (hs : s.NoRecovery) (hxs : ∀ x ∈ xs, x.RestoresNothing) (label : String) :
    (s.through p xs).gateway.outcomes label =
      s.gateway.outcomes label + (s.announcements p xs).countP fun a => decide (a.2 = label) := by
  induction xs generalizing s with
  | nil => rfl
  | cons x xs ih =>
      have hstep := (alters_undergo (p := p) hs x).outcomes_eq label
      have hrest := ih (noRecovery_undergo (p := p) hs (hxs x List.mem_cons_self)) fun y hy =>
        hxs y (List.mem_cons_of_mem x hy)
      rw [announcements, List.countP_append, ← Nat.add_assoc, ← hstep, ← hrest]
      rfl

/-- What an occurrence does to the status of a transaction that stays watched. -/
theorem status_undergo (hs : s.NoRecovery) (hstatus : HasStatus h status s)
    (htracked : (s.undergo p x).gateway.watchlist.lookup? h ≠ none) :
    ∃ status', HasStatus h status' (s.undergo p x) ∧
      (∀ o, s.answer? p x = some (h, o) →
        (s.undergo p x).gateway.watchlist.lookup? h = some o.record ∧
          (o.changed = true ↔ status' ≠ status)) ∧
      (status' ≠ status → status = .pending ∧ ∃ o, s.answer? p x = some (h, o)) := by
  obtain ⟨r, hr, rfl⟩ := hstatus
  obtain ⟨r', hr'⟩ := Option.ne_none_iff_exists'.mp htracked
  obtain ⟨hanswers, hchanges⟩ := (alters_undergo hs x).status_cases hr hr'
  refine ⟨r'.status, ⟨r', hr', rfl⟩, fun o ho => ?_, hchanges⟩
  obtain ⟨hrecord, hchanged⟩ := hanswers o ho
  exact ⟨hrecord ▸ hr', hchanged⟩

theorem HasStatus.eq {status' : Status} (h₁ : HasStatus h status s) (h₂ : HasStatus h status' s) :
    status' = status := by
  obtain ⟨r, hr, rfl⟩ := h₁
  obtain ⟨r', hr', rfl⟩ := h₂
  cases hr.symm.trans hr'
  rfl

/-- A poll that begins when the record is final tells it and does nothing else. -/
theorem start_of_final {t : Task} (hstatus : HasStatus h status s) (hfinal : status.isFinal = true)
    (ht : t = .poll h ∨ t = .settle h) (now : Timestamp) :
    ∃ r, s.gateway.watchlist.lookup? h = some r ∧ r.status = status ∧
      s.start p now t = ({ s with opened := s.opened + 1 },
        { call := s.opened, ending := some (.ofValue (.observed ⟨r, false⟩)) }) := by
  obtain ⟨r, hr, rfl⟩ := hstatus
  have hlive : r.isLive = false := by rw [Record.isLive, hfinal]; rfl
  have hpoll : Poll.start h s.gateway = .ended (.ok ⟨r, false⟩) := by
    simp [Poll.start, hr, hlive]
  refine ⟨r, hr, rfl, ?_⟩
  rcases ht with rfl | rfl
  · simp only [start, Call.start, hpoll]
    rfl
  · simp only [start, Call.start, Settle.start, hpoll]
    rfl

/-- A run in which a transaction stays watched and nothing is recovered. -/
structure StaysWatched (p : Policy) (s : System) (xs : List Occurrence) (h : TxHash) : Prop where
  /-- No recovery is in progress at first. -/
  noRecovery : s.NoRecovery
  /-- None is set going. -/
  restoresNothing : ∀ x ∈ xs, x.RestoresNothing
  /-- The record is not removed. -/
  tracked : ∀ k ≤ xs.length, (s.through p (xs.take k)).gateway.watchlist.lookup? h ≠ none

/-- What becomes of a transaction whose outcome is open at first: at one occurrence a poll makes it
final, or none does. -/
structure DecidedOnce (p : Policy) (s : System) (xs : List Occurrence) (h : TxHash) (e : Nat)
    (outcome : Status) : Prop where
  /-- `e` is the number of the occurrence, or the length of the run if there is none. -/
  le_length : e ≤ xs.length
  /-- The record is pending up to then. -/
  pending : ∀ k ≤ e, HasStatus h .pending (s.through p (xs.take k))
  /-- It has one status from then on. -/
  final : ∀ k, e < k → k ≤ xs.length → HasStatus h outcome (s.through p (xs.take k))
  /-- That status is final. -/
  isFinal : outcome.isFinal = true
  /-- A poll gets its answer then, and tells that it has made the record final. -/
  decides : e < xs.length → ∃ x o, xs[e]? = some x ∧
    (s.through p (xs.take e)).answer? p x = some (h, o) ∧ o.changed = true ∧
      o.record.status = outcome
  /-- Every poll tells the record as it is afterwards, and no other poll tells a change. -/
  answers : ∀ k x o, xs[k]? = some x → (s.through p (xs.take k)).answer? p x = some (h, o) →
    (s.through p (xs.take (k + 1))).gateway.watchlist.lookup? h = some o.record ∧
      (o.changed = true ↔ k = e)
  /-- A poll that begins later ends at once: it tells the record, and leaves everything as it is. -/
  starts : ∀ k, e < k → k ≤ xs.length → ∀ t, t = .poll h ∨ t = .settle h → ∀ now,
    ∃ r, (s.through p (xs.take k)).gateway.watchlist.lookup? h = some r ∧ r.status = outcome ∧
      (s.through p (xs.take k)).start p now t =
        ({ s.through p (xs.take k) with opened := (s.through p (xs.take k)).opened + 1 },
          { call := (s.through p (xs.take k)).opened
            ending := some (.ofValue (.observed ⟨r, false⟩)) })
  /-- No call begins to ask the chain for the transaction any more. -/
  asks : ∀ k, e < k → k ≤ xs.length → ∀ i slot, Asks i slot h (s.through p (xs.take k)) →
    Asks i slot h (s.through p (xs.take (e + 1)))
  /-- The outcome is made known once. -/
  announced : (s.announcements p xs).filter (fun a => decide (a.1 = h)) =
    if e < xs.length then [(h, outcome.label)] else []
  /-- Outcomes are counted as often as they are made known. -/
  counted : ∀ label, (s.through p xs).gateway.outcomes label =
    s.gateway.outcomes label + (s.announcements p xs).countP fun a => decide (a.2 = label)

namespace StaysWatched

variable {e : Nat} {outcome : Status}

theorem noRecovery_take (hw : StaysWatched p s xs h) (k : Nat) :
    (s.through p (xs.take k)).NoRecovery :=
  noRecovery_through hw.noRecovery fun x hx => hw.restoresNothing x (List.mem_of_mem_take hx)

theorem exists_status (hw : StaysWatched p s xs h) (hk : k ≤ xs.length) :
    ∃ status, HasStatus h status (s.through p (xs.take k)) := by
  obtain ⟨r, hr⟩ := Option.ne_none_iff_exists'.mp (hw.tracked k hk)
  exact ⟨r.status, r, hr, rfl⟩

theorem status_step (hw : StaysWatched p s xs h) (hx : xs[k]? = some x)
    (hstatus : HasStatus h status (s.through p (xs.take k))) :
    ∃ status', HasStatus h status' (s.through p (xs.take (k + 1))) ∧
      (∀ o, (s.through p (xs.take k)).answer? p x = some (h, o) →
        (s.through p (xs.take (k + 1))).gateway.watchlist.lookup? h = some o.record ∧
          (o.changed = true ↔ status' ≠ status)) ∧
      (status' ≠ status →
        status = .pending ∧ ∃ o, (s.through p (xs.take k)).answer? p x = some (h, o)) := by
  rw [through_take_succ hx]
  apply status_undergo (hw.noRecovery_take k) hstatus
  rw [← through_take_succ hx]
  exact hw.tracked (k + 1) (List.getElem?_eq_some_iff.mp hx).1

/-- A status that is not pending stays. -/
theorem status_of_le (hw : StaysWatched p s xs h) (hne : status ≠ .pending) (hik : i ≤ k)
    (hk : k ≤ xs.length) (hstatus : HasStatus h status (s.through p (xs.take i))) :
    HasStatus h status (s.through p (xs.take k)) := by
  induction k, hik using Nat.le_induction with
  | base => exact hstatus
  | succ k hik ih =>
      have hx : xs[k]? = some xs[k] := List.getElem?_eq_getElem hk
      obtain ⟨status', hnext, -, hchanges⟩ := hw.status_step hx (ih (Nat.le_of_succ_le hk))
      by_cases heq : status' = status
      · exact heq ▸ hnext
      · exact absurd (hchanges heq).1 hne

/-- What is pending has been pending before. -/
theorem pending_of_le (hw : StaysWatched p s xs h) (hik : i ≤ k) (hk : k ≤ xs.length)
    (hpending : HasStatus h .pending (s.through p (xs.take k))) :
    HasStatus h .pending (s.through p (xs.take i)) := by
  obtain ⟨status, hstatus⟩ := hw.exists_status (hik.trans hk)
  by_cases hne : status = .pending
  · exact hne ▸ hstatus
  · exact absurd ((hw.status_of_le hne hik hk hstatus).eq hpending).symm hne

/-- While a transaction is not live, no call begins to ask for it. -/
theorem asks_of_le (hik : i ≤ k) (hk : k ≤ xs.length)
    (hnot : ∀ j, i ≤ j → j ≤ xs.length → ¬ HasStatus h .pending (s.through p (xs.take j)))
    {c : Nat} (hasks : Asks c slot h (s.through p (xs.take k))) :
    Asks c slot h (s.through p (xs.take i)) := by
  induction k, hik using Nat.le_induction with
  | base => exact hasks
  | succ k hik ih =>
      have hnext := hnot (k + 1) (Nat.le_succ_of_le hik) hk
      rw [through_take_succ (List.getElem?_eq_getElem hk)] at hasks hnext
      exact ih (Nat.le_of_succ_le hk) ((asks_of_undergo hasks).resolve_right hnext)

/-- What a poll tells at each occurrence, when the record is pending up to one of them and has one
final status from then on. -/
theorem answers_at (hw : StaysWatched p s xs h)
    (hpending : ∀ k ≤ e, HasStatus h .pending (s.through p (xs.take k)))
    (hfinal : ∀ k, e < k → k ≤ xs.length → HasStatus h outcome (s.through p (xs.take k)))
    (hne : outcome ≠ .pending) (hx : xs[k]? = some x) :
    (∀ o, (s.through p (xs.take k)).answer? p x = some (h, o) →
      (s.through p (xs.take (k + 1))).gateway.watchlist.lookup? h = some o.record ∧
        (o.changed = true ↔ k = e)) ∧
      (k = e → ∃ o, (s.through p (xs.take k)).answer? p x = some (h, o) ∧
        o.record.status = outcome) := by
  have hk := (List.getElem?_eq_some_iff.mp hx).1
  obtain ⟨status, hstatus⟩ := hw.exists_status (Nat.le_of_lt hk)
  obtain ⟨status', hnext, hanswers, hchanges⟩ := hw.status_step hx hstatus
  -- The status changes at this occurrence and at no other.
  have hiff : status' ≠ status ↔ k = e := by
    rcases Nat.lt_trichotomy k e with hlt | rfl | hgt
    · have hwas := (hpending k (Nat.le_of_lt hlt)).eq hstatus
      have hnow := (hpending (k + 1) hlt).eq hnext
      simp [hwas, hnow, hlt.ne]
    · have hwas := (hpending k le_rfl).eq hstatus
      have hnow := (hfinal (k + 1) (Nat.lt_succ_self k) hk).eq hnext
      simp [hwas, hnow, hne]
    · have hwas := (hfinal k hgt (Nat.le_of_lt hk)).eq hstatus
      have hnow := (hfinal (k + 1) (Nat.lt_succ_of_lt hgt) hk).eq hnext
      simp [hwas, hnow, hgt.ne']
  constructor
  · intro o ho
    obtain ⟨hrecord, hchanged⟩ := hanswers o ho
    exact ⟨hrecord, hchanged.trans hiff⟩
  · intro heq
    obtain ⟨o, ho⟩ := (hchanges (hiff.mpr heq)).2
    have hsame : HasStatus h o.record.status (s.through p (xs.take (k + 1))) :=
      ⟨o.record, (hanswers o ho).1, rfl⟩
    exact ⟨o, ho, (hfinal (k + 1) (heq ▸ Nat.lt_succ_self k) hk).eq hsame⟩

theorem filter_announcements (hw : StaysWatched p s xs h)
    (hpending : ∀ k ≤ e, HasStatus h .pending (s.through p (xs.take k)))
    (hfinal : ∀ k, e < k → k ≤ xs.length → HasStatus h outcome (s.through p (xs.take k)))
    (hne : outcome ≠ .pending) (hk : k ≤ xs.length) :
    (s.announcements p (xs.take k)).filter (fun a => decide (a.1 = h)) =
      if e < k then [(h, outcome.label)] else [] := by
  induction k with
  | zero => rfl
  | succ k ih =>
      have hx : xs[k]? = some xs[k] := List.getElem?_eq_getElem hk
      obtain ⟨hanswers, hdecides⟩ := hw.answers_at hpending hfinal hne hx
      have hlast := filter_announced outcome.label (P := k = e)
        (fun o ho => (hanswers o ho).2) fun heq => by
          obtain ⟨o, ho, hstatus⟩ := hdecides heq
          exact ⟨o, ho, by rw [hstatus]⟩
      rw [announcements_take_succ hx, List.filter_append, ih (Nat.le_of_succ_le hk), hlast]
      rcases Nat.lt_trichotomy k e with hlt | rfl | hgt
      · simp [hlt.ne, Nat.not_lt.mpr (Nat.le_of_lt hlt), Nat.not_lt.mpr hlt]
      · simp
      · simp [hgt, hgt.ne', Nat.lt_succ_of_lt hgt]

end StaysWatched

theorem StaysWatched.decidedOnce {e : Nat} {outcome : Status} (hw : StaysWatched p s xs h)
    (hle : e ≤ xs.length)
    (hpending : ∀ k ≤ e, HasStatus h .pending (s.through p (xs.take k)))
    (hfinal : ∀ k, e < k → k ≤ xs.length → HasStatus h outcome (s.through p (xs.take k)))
    (hisFinal : outcome.isFinal = true) : DecidedOnce p s xs h e outcome := by
  have hne : outcome ≠ .pending := by
    rintro rfl
    cases hisFinal
  have hanswers := fun {k x} => hw.answers_at (k := k) (x := x) hpending hfinal hne
  refine ⟨hle, hpending, hfinal, hisFinal, fun he => ?_, fun k x o hx => (hanswers hx).1 o,
    fun k hek hk t ht now => start_of_final (hfinal k hek hk) hisFinal ht now,
    fun k hek hk i slot => StaysWatched.asks_of_le hek hk fun j hej hj hnot => ?_, ?_,
    counted_through hw.noRecovery hw.restoresNothing⟩
  · have hx : xs[e]? = some xs[e] := List.getElem?_eq_getElem he
    obtain ⟨hall, hone⟩ := hanswers hx
    obtain ⟨o, ho, hstatus⟩ := hone rfl
    exact ⟨_, o, hx, ho, (hall o ho).2.mpr rfl, hstatus⟩
  · exact hne ((hfinal j hej hj).eq hnot).symm
  · have hall := hw.filter_announcements hpending hfinal hne le_rfl
    rwa [List.take_length] at hall

/-- In every run in which a transaction stays watched and nothing is recovered: from any state in
which its outcome is open, it is decided at most once and for good, by the poll that says so. -/
theorem decided_once (hw : StaysWatched p s xs h) (hpending : HasStatus h .pending s) :
    ∃ e outcome, DecidedOnce p s xs h e outcome := by
  by_cases hend : HasStatus h .pending (s.through p (xs.take xs.length))
  · exact ⟨xs.length, .dropped, hw.decidedOnce le_rfl
      (fun k hk => hw.pending_of_le hk le_rfl hend)
      (fun k hlt hk => absurd hlt (Nat.not_lt.mpr hk)) rfl⟩
  · obtain ⟨e, -, he, hlast, hnot⟩ := exists_last_not
      (P := fun k => ¬ HasStatus h .pending (s.through p (xs.take k))) (Nat.zero_le _)
      (not_not.mpr hpending) hend
    obtain ⟨outcome, houtcome⟩ := hw.exists_status (k := e + 1) he
    have hne : outcome ≠ .pending := by
      rintro rfl
      exact hnot (e + 1) (Nat.lt_succ_self e) he houtcome
    refine ⟨e, outcome, hw.decidedOnce (Nat.le_of_lt he)
      (fun k hk => hw.pending_of_le hk (Nat.le_of_lt he) (not_not.mp hlast))
      (fun k hek hk => hw.status_of_le hne hek hk houtcome) ?_⟩
    cases outcome with
    | pending => exact absurd rfl hne
    | _ => rfl

/-- A fresh system in which a transaction has been entered. -/
def entered (r : Record) : System := ({} : System).undergo {} (.watch r)

/-- A run in which two polls of a transaction, one on behalf of a client, get contradictory answers;
a third begins afterwards. -/
def racingPolls (h : TxHash) : List Occurrence :=
  let later : Timestamp := ⟨(Duration.ofSeconds 601).nanos⟩
  let receipt : Receipt := ⟨some 1, 21000, true, none⟩
  [(⟨0⟩, .start (.settle h)), (⟨0⟩, .start (.poll h)), (later, .reply 0 0 (.receipt none)),
    (later, .reply 0 0 (.transaction none)), (later, .reply 1 0 (.receipt (some receipt))),
    (later, .start (.poll h))].map fun e => .moment ⟨e.1, .event e.2⟩

/-- The client's poll finds the transaction dropped; that stays, whatever the other one is told. -/
theorem racing_decided_once :
    let r : Record := .fresh ⟨0⟩ ⟨⟨0⟩, ⟨0⟩, 0, ⟨0⟩⟩
    StaysWatched {} (entered r) (racingPolls ⟨0⟩) ⟨0⟩ ∧ HasStatus ⟨0⟩ .pending (entered r) ∧
      DecidedOnce {} (entered r) (racingPolls ⟨0⟩) ⟨0⟩ 3 .dropped := by
  intro r
  have hw : StaysWatched {} (entered r) (racingPolls ⟨0⟩) ⟨0⟩ := by
    refine ⟨fun i c hget => ?_, fun x hx now held heq => ?_, by decide⟩
    · cases hget
    · subst heq
      simp [racingPolls] at hx
  have hpending : HasStatus ⟨0⟩ .pending (entered r) := ⟨r, rfl, rfl⟩
  obtain ⟨e, outcome, honce⟩ := decided_once hw hpending
  have hthird : HasStatus ⟨0⟩ .pending ((entered r).through {} ((racingPolls ⟨0⟩).take 3)) :=
    ⟨_, rfl, rfl⟩
  have hfourth : HasStatus ⟨0⟩ .dropped ((entered r).through {} ((racingPolls ⟨0⟩).take 4)) :=
    ⟨_, rfl, rfl⟩
  have hle : e < 4 := by
    refine Nat.lt_of_not_le fun hge => ?_
    cases (honce.pending 4 hge).eq hfourth
  have hge : 3 ≤ e := by
    refine Nat.le_of_not_lt fun hlt => ?_
    have heq := (honce.final 3 hlt (by decide)).eq hthird
    subst heq
    cases honce.isFinal
  obtain rfl : e = 3 := Nat.le_antisymm (Nat.le_of_lt_succ hle) hge
  obtain rfl := (honce.final 4 (by decide) (by decide)).eq hfourth
  exact ⟨hw, hpending, honce⟩

end System

end TxGateway
