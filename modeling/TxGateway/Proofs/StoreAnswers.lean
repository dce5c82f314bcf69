import TxGateway.Proofs.Run

/-!
# What the store says to a write

The store is told of accounts and of records while calls go on. Whether a write comes out well or
fails, the call that has asked for it goes on in the same way. So two runs in which everything is
the same but the answers of the store to writes are the same throughout: the calls give the same
answers, and all ledgers and all records are equal at every moment.
-/

namespace TxGateway

/-- Whether a question asks the store to write something down. -/
def Query.isWrite : Query → Bool
  | .noteAccount _ | .saveRecord _ => true
  | _ => false

/-- What the store says to a write. -/
def Reply.ofWrite : Option Failure → Reply
  | none => .done
  | some e => .failed e

/-- The question of a call with a number. -/
def Call.query? (c : Call) (slot : Nat) : Option Query :=
  (c.queries.find? fun e => decide (e.1 = slot)).map Prod.snd

/-- Whether the question of a call with a number asks for a write. -/
def Call.writes (c : Call) (slot : Nat) : Bool := (c.query? slot).any Query.isWrite

section

variable {p : Policy} {now : Timestamp} {g : Gateway} {outcome : Option Failure}

@[simp] theorem Reconcile.isWrite_query (r : Reconcile) (a : Address) :
    (r.query a).isWrite = false := by
  cases r <;> rfl

@[simp] theorem Obtain.isWrite_query (o : Obtain) (a : Address) : (o.query a).isWrite = false := by
  cases o with
  | turn => rfl
  | seeding r => exact r.isWrite_query a

@[simp] theorem CurrentNonce.isWrite_query (c : CurrentNonce) (a : Address) :
    (c.query a).isWrite = false := by
  cases c <;> rfl

@[simp] theorem Poll.isWrite_query (c : Poll) : c.query.isWrite = false := by
  obtain ⟨hash, submittedAt, stage⟩ := c
  cases stage <;> rfl

@[simp] theorem Recover.isWrite_query (c : Recover) : c.query.isWrite = false := by
  cases c with
  | reconciling a r rest => exact r.isWrite_query a
  | claiming record o rest total => exact o.isWrite_query record.account
  | _ => rfl

theorem Chore.resume_ofWrite {c : Chore} (hc : c.query.isWrite = true) :
    c.resume g (.ofWrite outcome) = c.resume g .done := by
  cases c with
  | saving r => cases outcome <;> rfl
  | _ => cases hc

theorem Submit.resume_ofWrite {c : Submit} (hc : c.query.isWrite = true) :
    c.resume p now g (.ofWrite outcome) = c.resume p now g .done := by
  obtain ⟨request, stage⟩ := c
  cases stage with
  | noting => cases outcome <;> rfl
  | holding record e => cases outcome <;> rfl
  | saving submission record => cases outcome <;> rfl
  | refreshing r => exact absurd hc (by simp [query])
  | obtaining o => exact absurd hc (by simp [query])
  | _ => cases hc

theorem Settle.resume_ofWrite {c : Settle} (hc : c.query.isWrite = true) :
    c.resume p now g (.ofWrite outcome) = c.resume p now g .done := by
  cases c with
  | saving o => cases outcome <;> rfl
  | polling poll => exact absurd hc (by simp [query])
  | _ => cases hc

/-- The question of a sweep with a number is that of the poll with this number. -/
theorem Sweep.find?_queries (s : Sweep) (slot : Nat) :
    (s.queries.find? fun e => decide (e.1 = slot)).map Prod.snd =
      (s.poll? slot).map Settle.query := by
  simp only [queries, poll?, List.find?_map, Option.map_map]
  rfl

theorem Sweep.resume_ofWrite {s : Sweep} {slot : Nat}
    (hs : ((s.poll? slot).map Settle.query).any Query.isWrite = true) :
    s.resume p now g slot (.ofWrite outcome) = s.resume p now g slot .done := by
  cases hpoll : s.poll? slot with
  | none => simp only [resume, hpoll]
  | some c =>
      rw [hpoll] at hs
      simp only [resume, hpoll, Settle.resume_ofWrite hs]

/-- A call that asks for a write has a question for one. -/
theorem Call.exists_of_writes {c : Call} {slot : Nat} (hc : c.writes slot = true) :
    ∃ q, (slot, q) ∈ c.queries ∧ q.isWrite = true := by
  rw [writes, Option.any_eq_true] at hc
  obtain ⟨q, hq, hwrite⟩ := hc
  obtain ⟨⟨i, q'⟩, hfind, rfl⟩ := Option.map_eq_some_iff.mp hq
  obtain rfl : i = slot := by simpa using List.find?_some hfind
  exact ⟨q', List.mem_of_find?_eq_some hfind, hwrite⟩

/-- If there is one question only, that is the one. -/
theorem Call.isWrite_of_writes {c : Call} {slot : Nat} {q : Query} (hc : c.writes slot = true)
    (hq : c.queries = [(0, q)]) : q.isWrite = true := by
  obtain ⟨q', hmem, hwrite⟩ := exists_of_writes hc
  rw [hq, List.mem_singleton] at hmem
  cases hmem
  exact hwrite

/-- Between two activities a monitor waits for moments, not for a write. -/
theorem Monitor.writes_of_idle {m : Monitor} (hm : m.activity = .idle) (slot : Nat) :
    (Call.monitor m).writes slot = false := by
  rw [← Bool.not_eq_true]
  intro hc
  obtain ⟨q, hmem, hwrite⟩ := Call.exists_of_writes hc
  simp only [Call.queries, queries, hm, List.mem_cons, List.not_mem_nil, or_false,
    Prod.mk.injEq] at hmem
  rcases hmem with ⟨-, rfl⟩ | ⟨-, rfl⟩ | ⟨-, rfl⟩ <;> cases hwrite

theorem Call.proceed_ofWrite {c : Call} {slot : Nat} (hc : c.writes slot = true) :
    c.proceed p now g slot (.ofWrite outcome) = c.proceed p now g slot .done := by
  cases c with
  | submit stage => simp only [proceed, stage.resume_ofWrite (isWrite_of_writes hc rfl)]
  | settle stage => simp only [proceed, stage.resume_ofWrite (isWrite_of_writes hc rfl)]
  | chore stage => simp only [proceed, stage.resume_ofWrite (isWrite_of_writes hc rfl)]
  | sweep s =>
      rw [writes, query?, queries, s.find?_queries] at hc
      simp only [proceed, s.resume_ofWrite hc]
  | monitor m =>
      obtain ⟨refresh, reconcile, cleanup, activity⟩ := m
      cases activity with
      | idle => cases (Monitor.writes_of_idle rfl slot).symm.trans hc
      | sweeping s =>
          rw [writes, query?, queries, Monitor.queries, s.find?_queries] at hc
          simp only [proceed, Monitor.resume, s.resume_ofWrite hc]
      | reconciling r => exact absurd (isWrite_of_writes hc rfl) (by simp [ReconcileAll.query])
  | readiness store => cases store <;> cases isWrite_of_writes hc rfl
  -- No other call ever asks the store for a write.
  | reconcile | obtain | currentNonce | poll | recover | reconcileAll =>
      exact absurd (isWrite_of_writes hc rfl) (by simp [ReconcileAll.query])
  | giveBack | expire | storeHealth => cases isWrite_of_writes hc rfl

/-- A call goes on in the same way whatever the store says to a write. -/
theorem Call.resume_ofWrite {c : Call} {slot : Nat} (hc : c.writes slot = true) :
    c.resume p now g slot (.ofWrite outcome) = c.resume p now g slot .done := by
  have h : c.proceed p now g slot (.ofWrite outcome) = c.proceed p now g slot .done :=
    proceed_ofWrite hc
  cases outcome <;> exact h

end

namespace System

/-- What a moment gives to whoever has brought it about. -/
inductive Answer
  /-- What has become of the call. -/
  | event (effect : Effect)
  /-- How many records have been forgotten. -/
  | evicted (result : Except Crash Nat)
  /-- Nothing. -/
  | closing

/-- The answer of a moment. -/
def answer (p : Policy) (s : System) (m : Moment) : Answer :=
  match m.what with
  | .event e => .event (s.step p m.now e).2
  | .evict olderThan => .evicted ((s.gateway.evict m.now olderThan).map Prod.snd)
  | .close => .closing

/-- The answer of the moment of a run with a number. -/
def answerAt (p : Policy) (ms : List Moment) (k : Nat) : Option Answer :=
  ms[k]?.map ((upTo p ms k).answer p)

/-- A moment with another outcome of a write: if the moment answers a call that has asked for one,
it tells this outcome. All other moments stay as they are. -/
def withStore (s : System) (outcome : Option Failure) (m : Moment) : Moment :=
  match m.what with
  | .event (.reply i slot _) =>
    if (s.calls.get? i).any (·.writes slot) then
      { m with what := .event (.reply i slot (.ofWrite outcome)) }
    else m
  | _ => m

/-- The moments of a run with a store whose writes come out as told, moment by moment. -/
def underStore (p : Policy) (s : System) (outcomes : Nat → Option Failure) :
    List Moment → List Moment
  | [] => []
  | m :: ms =>
    let m := s.withStore (outcomes 0) m
    m :: (s.pass p m).underStore p (fun k => outcomes (k + 1)) ms

section

variable {p : Policy} {s : System} {ms : List Moment} {k : Nat}

/-- Each moment has the outcome that it is told, in the state that the run has reached by then. -/
theorem getElem?_underStore (s : System) (outcomes : Nat → Option Failure) (ms : List Moment)
    (k : Nat) :
    (s.underStore p outcomes ms)[k]? =
      ms[k]?.map ((((s.underStore p outcomes ms).take k).foldl (pass p) s).withStore
        (outcomes k)) := by
  induction ms generalizing s outcomes k with
  | nil => rfl
  | cons m ms ih =>
      cases k with
      | zero => rfl
      | succ k => exact ih (s.pass p (s.withStore (outcomes 0) m)) (fun k => outcomes (k + 1)) k

/-- The outcome of a write makes no difference to what a reply does. -/
theorem reply_ofWrite {i slot : Nat} (h : (s.calls.get? i).any (·.writes slot) = true)
    (now : Timestamp) (outcome : Option Failure) :
    s.reply p now i slot (.ofWrite outcome) = s.reply p now i slot .done := by
  cases hget : s.calls.get? i with
  | none => simp only [reply, hget]
  | some c =>
      rw [hget] at h
      simp only [reply, hget, Call.resume_ofWrite h]

theorem pass_withStore (outcome outcome' : Option Failure) (m : Moment) :
    s.pass p (s.withStore outcome m) = s.pass p (s.withStore outcome' m) := by
  unfold withStore
  split
  · split
    · simp only [pass, step, reply_ofWrite ‹_›]
    · rfl
  · rfl

theorem answer_withStore (outcome outcome' : Option Failure) (m : Moment) :
    s.answer p (s.withStore outcome m) = s.answer p (s.withStore outcome' m) := by
  unfold withStore
  split
  · split
    · simp only [answer, step, reply_ofWrite ‹_›]
    · rfl
  · rfl

theorem upTo_underStore (s : System) (outcomes outcomes' : Nat → Option Failure)
    (ms : List Moment) (k : Nat) :
    ((s.underStore p outcomes ms).take k).foldl (pass p) s =
      ((s.underStore p outcomes' ms).take k).foldl (pass p) s := by
  induction ms generalizing s outcomes outcomes' k with
  | nil => rfl
  | cons m ms ih =>
      cases k with
      | zero => rfl
      | succ k =>
          simp only [underStore, List.take_succ_cons, List.foldl_cons]
          rw [pass_withStore (outcomes 0) (outcomes' 0)]
          exact ih _ _ _ k

/-- Two runs with the same schedule, in which everything but the outcomes of the writes of the store
is the same, are the same throughout: every moment gives the same answer, and all ledgers and all
records are equal before and after it. -/
theorem same_whatever_store_says (p : Policy) (ms : List Moment)
    (outcomes outcomes' : Nat → Option Failure) (k : Nat) :
    answerAt p (underStore p {} outcomes ms) k = answerAt p (underStore p {} outcomes' ms) k ∧
      upTo p (underStore p {} outcomes ms) k = upTo p (underStore p {} outcomes' ms) k := by
  have hstate : upTo p (underStore p {} outcomes ms) k = upTo p (underStore p {} outcomes' ms) k :=
    upTo_underStore {} outcomes outcomes' ms k
  refine ⟨?_, hstate⟩
  have hmoment : ∀ x, (underStore p {} x ms)[k]? =
      ms[k]?.map ((upTo p (underStore p {} x ms) k).withStore (x k)) :=
    fun x => getElem?_underStore {} x ms k
  rw [answerAt, answerAt, hmoment, hmoment, hstate, Option.map_map, Option.map_map]
  apply Option.map_congr
  intro m _
  exact answer_withStore _ _ m

end

end System

end TxGateway
