import TxGateway.Proofs.Tally
import TxGateway.Proofs.Turn

/-!
# Who has a nonce in hand

A nonce that has been handed out to a submission is in the hands of that submission until it is
broadcast, then of the record under which the transaction is watched, and of whoever has decided to
give it back. A serial number goes with the transaction likewise. A move is what a step of a call
can do with what it has in hand and with the watchlist.
-/

namespace TxGateway

/-- What can be in one pair of hands only. -/
inductive Token
  /-- A nonce of an account. -/
  | nonce (account : Address) (n : Nat)
  /-- The serial number of a submission. -/
  | serial (id : SubmissionId)
  deriving DecidableEq

/-- What a watched transaction has in hand: its serial number, and its nonce while it is live. -/
def Record.held (r : Record) : Multiset Token :=
  .serial r.id ::ₘ if r.isLive then {.nonce r.account r.nonce} else 0

/-- What a submission has in hand. -/
def Submit.held (c : Submit) : Multiset Token :=
  match c.stage with
  | .pricing n | .signing n _ | .returning n _ => {.nonce c.request.account n}
  | .broadcasting r _ => r.held
  | _ => 0

/-- What a chore has in hand. -/
def Chore.held : Chore → Multiset Token
  | releasing a n => {.nonce a n}
  | _ => 0

/-- The nonce that is to be given back after a poll. -/
def Watchlist.Observation.held (o : Watchlist.Observation) : Multiset Token :=
  if o.changed ∧ o.record.status = .dropped then {.nonce o.record.account o.record.nonce} else 0

/-- What a poll on behalf of a client has in hand. -/
def Settle.held : Settle → Multiset Token
  | releasing o => {.nonce o.record.account o.record.nonce}
  | _ => 0

/-- What the polls of a sweep have in hand. -/
def Sweep.held (s : Sweep) : Multiset Token := Entries.tally Settle.held s.running

/-- What the monitor has in hand. -/
def Monitor.held (m : Monitor) : Multiset Token :=
  match m.activity with
  | .sweeping s => s.held
  | _ => 0

/-- What a call has in hand. -/
def Call.held : Call → Multiset Token
  | submit stage => stage.held
  | settle stage => stage.held
  | sweep stage => stage.held
  | monitor stage => stage.held
  | chore stage => stage.held
  | _ => 0

/-- What the watched transactions have in hand. -/
def Watchlist.held (w : Watchlist) : Multiset Token := w.records.tally Record.held

/-- What all calls have in hand. -/
def System.held (s : System) : Multiset Token := s.calls.tally Call.held

theorem no_give_back (a : Address) (n : Nat) : none ≠ some (a, Turn.giveBack n) := by
  intro heq
  cases heq

/-- What can happen to the watchlist and to what is in hand while one call makes a step. -/
inductive Move (g g' : Gateway) (t : Option (Address × Turn)) :
    Multiset Token → Multiset Token → Prop
  /-- At most something gets out of hand. -/
  | keep {mine mine' : Multiset Token} (steady : g.Steady g')
      (turn : ∀ a n, t ≠ some (a, .giveBack n)) (le : mine' ≤ mine) : Move g g' t mine mine'
  /-- A nonce is handed out. -/
  | grant {mine : Multiset Token} {a : Address} {choice : NonceChoice} {n : Nat}
      (steady : g.Steady g') (turn : t = some (a, .obtain choice))
      (got : (g.obtain a choice).2 = some (.ok n)) : Move g g' t mine (.nonce a n ::ₘ mine)
  /-- A nonce is given back by who has it in hand. -/
  | back {mine : Multiset Token} {a : Address} {n : Nat} (steady : g.Steady g')
      (turn : t = some (a, .giveBack n)) : Move g g' t (.nonce a n ::ₘ mine) mine
  /-- A serial number is issued. -/
  | issue {mine : Multiset Token} (watchlist_eq : g'.watchlist = g.watchlist)
      (issued_eq : g'.issued = g.issued + 1) (turn : t = none) :
      Move g g' t mine (.serial ⟨g.issued⟩ ::ₘ mine)
  /-- A transaction is entered in the watchlist. -/
  | enter {mine : Multiset Token} {r : Record} (entered : g.watchlist.enter r = .ok g'.watchlist)
      (issued_eq : g'.issued = g.issued) (turn : t = none) : Move g g' t (r.held + mine) mine
  /-- A poll takes a status into the watchlist. -/
  | poll {mine mine' : Multiset Token} {h : TxHash} {now : Timestamp} {status : Status}
      {o : Watchlist.Observation}
      (polled : g.watchlist.polled? h now status = some (g'.watchlist, o))
      (issued_eq : g'.issued = g.issued) (turn : t = none) (le : mine' ≤ o.held + mine) :
      Move g g' t mine mine'
  /-- Old records are forgotten. -/
  | purge {mine : Multiset Token} {cutoff : Timestamp}
      (purged : g'.watchlist = g.watchlist.purge cutoff) (issued_eq : g'.issued = g.issued)
      (turn : t = none) : Move g g' t mine mine

/-- What a move amounts to, all that is in hand taken together. -/
inductive Exchange (g g' : Gateway) (t : Option (Address × Turn)) (all all' : Multiset Token) : Prop
  /-- At most something gets out of hand. -/
  | lose (turn : ∀ a n, t ≠ some (a, .giveBack n)) (issued_eq : g'.issued = g.issued)
      (le : all' ≤ all)
  /-- A nonce is handed out. -/
  | grant {a : Address} {choice : NonceChoice} {n : Nat} (turn : t = some (a, .obtain choice))
      (got : (g.obtain a choice).2 = some (.ok n)) (issued_eq : g'.issued = g.issued)
      (eq : all' = .nonce a n ::ₘ all)
  /-- A nonce is given back. -/
  | back {a : Address} {n : Nat} (turn : t = some (a, .giveBack n))
      (issued_eq : g'.issued = g.issued) (eq : all = .nonce a n ::ₘ all')
  /-- A serial number is issued. -/
  | issue (turn : t = none) (issued_eq : g'.issued = g.issued + 1)
      (eq : all' = .serial ⟨g.issued⟩ ::ₘ all)

theorem Record.held_of_pending {r : Record} (h : r.status = .pending) :
    r.held = .serial r.id ::ₘ {.nonce r.account r.nonce} := by
  simp [held, isLive, Status.isFinal, h]

theorem Record.held_of_final {r : Record} (h : r.status.isFinal = true) :
    r.held = {.serial r.id} := by
  simp [held, isLive, h]

theorem Record.isLive_of_pending {r : Record} (h : r.status = .pending) : r.isLive = true := by
  simp [isLive, Status.isFinal, h]

theorem Record.status_of_isLive {r : Record} (h : r.isLive = true) : r.status = .pending := by
  cases hs : r.status with
  | pending => rfl
  | _ => simp [isLive, hs, Status.isFinal] at h

namespace Watchlist

variable {w w' : Watchlist}

theorem Observation.mem_held {o : Observation} {a : Address} {n : Nat} :
    .nonce a n ∈ o.held ↔
      (o.changed = true ∧ o.record.status = .dropped) ∧ a = o.record.account ∧
        n = o.record.nonce := by
  rw [held]
  split
  · rename_i hdropped
    simp [hdropped]
  · rename_i hdropped
    simp [hdropped]

/-- What a transaction that is entered has in hand is added to what is watched. -/
theorem held_of_enter {r : Record} (h : w.enter r = .ok w') : w'.held = r.held + w.held := by
  simp only [enter] at h
  split at h
  · cases h
  · rename_i hnew
    split at h
    · cases h
    · cases h
      refine Table.tally_set_of_none Record.held ?_ r
      cases hget : w.records.get? r.hash with
      | none => rfl
      | some r' => simp [Table.contains, hget] at hnew

/-- A poll changes the status of one record; a final status stays. -/
theorem polled?_eq_some {h : TxHash} {now : Timestamp} {status : Status} {o : Observation}
    (hp : w.polled? h now status = some (w', o)) :
    ∃ r, w.records.get? h = some r ∧ w'.records = w.records.set h o.record ∧
      w'.holders = w.holders ∧
      o.record = { r with
        status := if r.isLive then status else r.status
        lastPolledAt := some now } ∧
      o.changed = (r.isLive && status.isFinal) := by
  simp only [polled?] at hp
  split at hp
  · cases hp
  · rename_i r hr
    cases hp
    exact ⟨r, hr, rfl, rfl, rfl, rfl⟩

/-- What a poll takes in hand comes out of what is watched. -/
theorem held_of_polled {h : TxHash} {now : Timestamp} {status : Status} {o : Observation}
    (hp : w.polled? h now status = some (w', o)) : o.held + w'.held ≤ w.held := by
  obtain ⟨r, hr, hrecords, -, hrecord, hchanged⟩ := polled?_eq_some hp
  obtain ⟨rest, hall, hset, -⟩ := Table.exists_rest Record.held hr
  rw [held, held, hall, hrecords, hset, ← add_assoc]
  apply add_le_add_left
  rw [Observation.held, hchanged, hrecord]
  cases hlive : r.isLive with
  | true =>
      rw [Record.held_of_pending (Record.status_of_isLive hlive)]
      by_cases hdropped : status = .dropped
      · simp only [Record.held, Record.isLive, Status.isFinal, hdropped, Bool.true_and,
          Bool.not_true, Bool.false_eq_true, and_self, if_true, if_false]
        exact (Multiset.cons_swap _ _ 0).le
      · simp only [Record.held, hdropped, Bool.true_and, and_false, if_true, if_false, zero_add]
        apply Multiset.cons_le_cons
        split
        · exact le_rfl
        · exact Multiset.zero_le _
  | false =>
      simp only [Record.held, Record.isLive, Bool.false_and, Bool.false_eq_true, false_and,
        if_false, zero_add]
      exact le_rfl

theorem held_purge_le (w : Watchlist) (cutoff : Timestamp) : (w.purge cutoff).held ≤ w.held :=
  Table.tally_filter_le Record.held w.records _

end Watchlist

namespace Move

variable {g g' : Gateway} {t : Option (Address × Turn)} {mine mine' : Multiset Token}

/-- Who has only one nonce in hand and gives it back has nothing left. -/
theorem giveBack {a : Address} {n : Nat} (steady : g.Steady g')
    (turn : t = some (a, .giveBack n)) : Move g g' t {.nonce a n} 0 := by
  rw [← Multiset.cons_zero]
  exact .back steady turn

/-- What others have in hand is not touched by a move. -/
theorem frame (h : Move g g' t mine mine') (rest : Multiset Token) :
    Move g g' t (mine + rest) (mine' + rest) := by
  cases h with
  | keep steady turn le => exact .keep steady turn (add_le_add_left le rest)
  | grant steady turn got =>
      rw [Multiset.cons_add]
      exact .grant steady turn got
  | back steady turn =>
      rw [Multiset.cons_add]
      exact .back steady turn
  | issue watchlist_eq issued_eq turn =>
      rw [Multiset.cons_add]
      exact .issue watchlist_eq issued_eq turn
  | enter entered issued_eq turn =>
      rw [add_assoc]
      exact .enter entered issued_eq turn
  | poll polled issued_eq turn le =>
      refine .poll polled issued_eq turn ?_
      rw [← add_assoc]
      exact add_le_add_left le rest
  | purge purged issued_eq turn => exact .purge purged issued_eq turn

/-- What gets from hand to hand in a move is neither lost nor doubled. -/
theorem exchange (h : Move g g' t mine mine') :
    Exchange g g' t (mine + g.watchlist.held) (mine' + g'.watchlist.held) := by
  cases h with
  | keep steady turn le =>
      refine .lose turn steady.issued_eq ?_
      rw [steady.watchlist_eq]
      exact add_le_add_left le _
  | grant steady turn got =>
      refine .grant turn got steady.issued_eq ?_
      rw [steady.watchlist_eq, Multiset.cons_add]
  | back steady turn =>
      refine .back turn steady.issued_eq ?_
      rw [steady.watchlist_eq, Multiset.cons_add]
  | issue watchlist_eq issued_eq turn =>
      refine .issue turn issued_eq ?_
      rw [watchlist_eq, Multiset.cons_add]
  | enter entered issued_eq turn =>
      refine .lose (by rw [turn]; exact no_give_back) issued_eq ?_
      rw [Watchlist.held_of_enter entered, add_left_comm, add_assoc]
  | poll polled issued_eq turn le =>
      refine .lose (by rw [turn]; exact no_give_back) issued_eq ?_
      refine (add_le_add_left le _).trans ?_
      rw [add_comm _ mine, add_assoc]
      exact add_le_add_right (Watchlist.held_of_polled polled) mine
  | purge purged issued_eq turn =>
      refine .lose (by rw [turn]; exact no_give_back) issued_eq ?_
      rw [purged]
      exact add_le_add_right (g.watchlist.held_purge_le _) _

end Move

end TxGateway
