import TxGateway.Proofs.Index
import TxGateway.Proofs.Stages

/-!
# Abandoned submissions are cleaned up

However a submission is dropped, and whatever other calls have done while it waited, it leaves the
gateway in order. Before it has a nonce there is nothing to do. As long as it has sent nothing its
nonce goes back, and the ledger is made stale; the next nonce is pulled back to its place, unless
the ledger has begun again at 0. Once it waits for its broadcast the nonce stays pending, and its
transaction is watched and stored.
-/

namespace TxGateway

theorem Gateway.needsReconcile_expire (g : Gateway) (a : Address) (now : Timestamp)
    (maxAge : Duration) : (g.expire a).needsReconcile now a maxAge = true := by
  cases hget : g.ledgers.get? a with
  | none => simp [needsReconcile, expire, hget]
  | some l => simp [needsReconcile, expire, hget, setLedger, Ledger.expire, Ledger.isStale]

theorem Gateway.ledgers_watch (g : Gateway) (r : Record) : (g.watch r).1.ledgers = g.ledgers := by
  simp only [watch]
  split <;> rfl

/-- Giving a nonce back removes it from the pending ones, if it is there. -/
theorem Ledger.pending_giveBack (l : Ledger) (n : Nat) :
    ((l.giveBack? n).getD l).pending = l.pending.filter (· ≠ n) := by
  by_cases hn : n ∈ l.pending
  · simp [giveBack?, hn]
  · have hleft : l.pending.filter (· ≠ n) = l.pending := by
      apply List.filter_eq_self.mpr
      intro m hm
      simp only [ne_eq, decide_not, Bool.not_eq_true', decide_eq_false_iff_not]
      rintro rfl
      exact hn hm
    rw [giveBack?, if_neg hn, Option.getD_none, hleft]

theorem Ledger.confirmed_giveBack (l : Ledger) (n : Nat) :
    ((l.giveBack? n).getD l).confirmed = l.confirmed := by
  cases hg : l.giveBack? n with
  | none => rfl
  | some t =>
      obtain ⟨-, rfl⟩ := eq_of_giveBack? hg
      rfl

theorem Ledger.Follows.expire {l : Ledger} {b : Book} (h : l.Follows b) : l.expire.Follows b :=
  ⟨h.confirmed_eq, h.pending_eq, h.next_eq, h.floor_le⟩

/-- A kept ledger follows its book without the nonce that has been given back, pending or not. -/
theorem Ledger.Kept.follows_giveBack {l : Ledger} (h : l.Kept) (n : Nat) :
    ((l.giveBack? n).getD l).Follows (l.book.drop n) := by
  cases hg : l.giveBack? n with
  | none =>
      have hn := (giveBack?_eq_none_iff l n).mp hg
      rw [Option.getD_none, Book.drop, Finset.erase_eq_of_notMem hn]
      exact h.follows
  | some t =>
      obtain ⟨hkept, hbook⟩ := h.giveBack hg
      exact hbook ▸ hkept.follows

namespace System

variable {p : Policy} {s : System} {m : Moment} {i c n : Nat} {a : Address} {sent : Record}

/-- A call gets the turn that it waits for. -/
def turnOf (i : Nat) (now : Timestamp) : Moment := ⟨now, .event (.reply i 0 .done)⟩

/-- The turns of a chore that is to give a nonce back: at the first one it does so, at the second
one it makes the ledger stale, and then it is at its end. -/
theorem turns_of_chore (h : s.calls.get? i = some (.chore (.releasing a n))) (t₁ t₂ : Timestamp) :
    (s.pass p (turnOf i t₁)).queries i = [(0, .turn a)] ∧
      (s.pass p (turnOf i t₁)).pass p (turnOf i t₂) =
        { s with
          gateway := (s.gateway.giveBack a n).1.expire a
          calls := (s.calls.set i (.chore (.expiring a))).erase i } := by
  have hfirst : s.pass p (turnOf i t₁) =
      { s with
        gateway := (s.gateway.giveBack a n).1
        calls := s.calls.set i (.chore (.expiring a)) } := by
    simp only [pass, turnOf, step, reply, h]
    rfl
  rw [hfirst]
  constructor
  · simp only [queries, Table.get?_set_self]
    rfl
  · simp only [pass, turnOf, step, reply, Table.get?_set_self]
    rfl

/-- What has become of the gateway when a submission that had a nonce, and had sent nothing, has
been dropped and its chore has run. -/
structure Released (s t : System) (c : Nat) (a : Address) (n : Nat) : Prop where
  /-- The submission is at its end. -/
  gone : Gone c t
  /-- So is its chore. -/
  chore_gone : Gone s.opened t
  /-- The pending nonces are those from before without the one that it had. -/
  pending_eq : t.gateway.pendingNonces a = (s.gateway.pendingNonces a).filter (· ≠ n)
  /-- The confirmed count is what it was. -/
  confirmed_eq : (t.gateway.ledger a).confirmed = (s.gateway.ledger a).confirmed
  /-- The nonce is used up, or it can be handed out again: it fills a hole, or it lies at or above
  the next one. -/
  free : n < (s.gateway.ledger a).confirmed ∨ ¬ (t.book a).Secures n
  /-- The chain has to be asked before the next submission. -/
  stale : ∀ now maxAge, t.gateway.needsReconcile now a maxAge = true
  /-- Nothing has happened to any other account. -/
  others : ∀ o, o ≠ a → t.gateway.ledgers.get? o = s.gateway.ledgers.get? o
  /-- Nothing has happened to the watched transactions. -/
  watchlist_eq : t.gateway.watchlist = s.gateway.watchlist
  /-- Nothing has happened to any other call. -/
  calls_eq : ∀ i, i < s.opened → i ≠ c → t.calls.get? i = s.calls.get? i

/-- The nonce of a dropped submission goes back. -/
theorem released_of_isUnsent {stage : Submit} (hget : s.calls.get? c = some (.submit stage))
    (hn : stage.IsUnsent n) (hs : s.CallsAre Call.Sound) (hdrops : Drops p c s m)
    (t₁ t₂ : Timestamp) :
    let a := stage.request.account
    let t := s.pass p m
    let u := (t.pass p (turnOf s.opened t₁)).pass p (turnOf s.opened t₂)
    t.queries s.opened = [(0, .turn a)] ∧
      (t.pass p (turnOf s.opened t₁)).queries s.opened = [(0, .turn a)] ∧ Released s u c a n ∧
      ((s.gateway.ledger a).Kept →
        (u.gateway.ledger a).Follows ((s.gateway.ledger a).book.drop n)) := by
  intro a t u
  have ht : t = ({ s with calls := s.calls.erase c } : System).enroll (.chore (.releasing a n)) :=
    (hdrops.pass_eq hget (hs.each _ _ hget)).trans (abandon_of_isUnsent hget hn)
  have hchore : t.calls.get? s.opened = some (.chore (.releasing a n)) := by
    rw [ht]
    exact Table.get?_set_self _ _ _
  obtain ⟨hasks, hafter⟩ := turns_of_chore (p := p) hchore t₁ t₂
  have hgateway : t.gateway = s.gateway := by rw [ht]; rfl
  have hledger : u.gateway.ledger a =
      (((s.gateway.ledger a).giveBack? n).getD (s.gateway.ledger a)).expire := by
    simp [u, hafter, hgateway]
  refine ⟨?_, hasks, ?_, fun hkept => hledger ▸ (hkept.follows_giveBack n).expire⟩
  · simp only [queries, hchore]
    rfl
  have hcalls : ∀ i, (((t.calls.set s.opened (.chore (.expiring a))).erase s.opened).get? i) =
      if i = s.opened ∨ i = c then none else s.calls.get? i := by
    intro i
    rw [Table.get?_erase, Table.get?_set, ht]
    simp only [enroll, Table.get?_set, Table.get?_erase]
    by_cases hi : i = s.opened
    · simp [hi]
    · simp [hi]
  have hpending : u.gateway.pendingNonces a = (s.gateway.pendingNonces a).filter (· ≠ n) := by
    rw [Gateway.pendingNonces, hledger]
    exact Ledger.pending_giveBack _ n
  have hconfirmed : (u.gateway.ledger a).confirmed = (s.gateway.ledger a).confirmed := by
    rw [hledger]
    exact Ledger.confirmed_giveBack _ n
  refine ⟨?_, ?_, hpending, hconfirmed, ?_, ?_, ?_, ?_, ?_⟩
  · simp only [u, hafter, Gone, hcalls, or_true, if_true]
  · simp only [u, hafter, Gone, hcalls, true_or, if_true]
  · refine (lt_or_ge n (s.gateway.ledger a).confirmed).imp id fun hle => ?_
    rw [book, Book.not_secures_iff, Ledger.floor_book, hconfirmed, Ledger.mem_book]
    refine ⟨hle, fun hn => ?_⟩
    rw [← Gateway.pendingNonces, hpending] at hn
    simp at hn
  · intro now maxAge
    simp only [u, hafter]
    exact Gateway.needsReconcile_expire _ a now maxAge
  · simp only [u, hafter, hgateway]
    exact fun o ho => ((Gateway.spares_expire _ a).others o ho).trans
      ((s.gateway.spares_giveBack a n).others o ho)
  · simp only [u, hafter, hgateway]
    exact ((s.gateway.spares_giveBack a n).toSteady.trans
      (Gateway.spares_expire _ a).toSteady).watchlist_eq
  · intro i hi hic
    simp only [u, hafter, hcalls, hi.ne, hic, or_self, if_false]

/-- A dropped submission that waits for its broadcast has its transaction watched, if it can be
entered, and left to be stored. No ledger changes. -/
theorem kept_of_onItsWay {stage : Submit} {raw : Bytes}
    (hget : s.calls.get? c = some (.submit stage)) (hway : stage.stage = .broadcasting sent raw)
    (hs : s.CallsAre Call.Sound) (hdrops : Drops p c s m) :
    (s.pass p m).gateway.ledgers = s.gateway.ledgers ∧
      (s.gateway.watchlist.Admits sent →
        (s.pass p m).gateway.watchlist.lookup? sent.hash = some sent ∧
          (s.pass p m).calls = (s.calls.erase c).set s.opened (.chore (.saving sent))) ∧
      (¬ s.gateway.watchlist.Admits sent →
        (s.pass p m).gateway.watchlist = s.gateway.watchlist ∧
          (s.pass p m).calls = s.calls.erase c) := by
  obtain ⟨request, stage⟩ := stage
  cases hway
  have hledgers := s.gateway.ledgers_watch sent
  rw [hdrops.pass_eq hget (hs.each _ _ hget), Watchlist.admits_iff]
  rcases s.gateway.watch_cases sent with
    ⟨g', hwatch, hentered, -⟩ | ⟨g', conflict, hwatch, hrefused, hsteady⟩
  · have hafter : (s.abandon c).1 = ({ s with gateway := g', calls := s.calls.erase c } :
        System).enroll (.chore (.saving sent)) := by
      simp [abandon, hget, Call.abandon, Submit.abandon, hwatch, enrollChores]
    rw [hafter]
    rw [hwatch] at hledgers
    refine ⟨hledgers, fun _ => ⟨?_, rfl⟩, fun hno => absurd ⟨_, hentered⟩ hno⟩
    · exact ((Watchlist.lookup?_of_enter hentered).2 sent.hash).trans (if_pos rfl)
  · have hafter : (s.abandon c).1 = { s with gateway := g', calls := s.calls.erase c } := by
      simp [abandon, hget, Call.abandon, Submit.abandon, hwatch, enrollChores]
    rw [hafter]
    rw [hwatch] at hledgers
    refine ⟨hledgers, ?_, fun _ => ⟨hsteady.watchlist_eq, rfl⟩⟩
    · rintro ⟨w, hw⟩
      rw [hrefused] at hw
      cases hw

/-- What has become of a submission that was dropped, or broke off, at the end of a run, according
to where it stood. -/
inductive CleanedUp (p : Policy) (ms : List Moment) (m : Moment) (c : Nat) (stage : Submit) : Prop
  /-- It had no nonce: nothing has changed but that it is at its end. It was never given a nonce,
  and no transaction of it was ever put on the watchlist. -/
  | bare (rank_eq : stage.stage.rank = 0)
      (state_eq : after p (ms ++ [m]) = { after p ms with calls := (after p ms).calls.erase c })
      (never_given : ∀ k a n, ¬ At p ms k (Given c a n))
      (never_tracked : ∀ k r, ¬ At p ms k (Tracks p c r))
  /-- It had a nonce and had never called for a broadcast: its chore, which asks for nothing but two
  turns at the ledger, gives the nonce back. Then the next nonce is at the confirmed count or
  follows the greatest pending one, unless the greatest nonce has been pending. -/
  | unsent {n : Nat} (stage_eq : stage.IsUnsent n)
      (never_sent : ∀ k, k ≤ ms.length → ∀ sent, ¬ OnItsWay c sent (upTo p ms k))
      (asks : (after p (ms ++ [m])).queries (after p ms).opened =
        [(0, .turn stage.request.account)])
      (asks_again : ∀ t, (after p (ms ++ [m, turnOf (after p ms).opened t])).queries
        (after p ms).opened = [(0, .turn stage.request.account)])
      (released : ∀ t₁ t₂, Released (after p ms)
        (after p (ms ++ [m, turnOf (after p ms).opened t₁, turnOf (after p ms).opened t₂])) c
        stage.request.account n)
      (follows : LeavesRoom p ms stage.request.account → ∀ t₁ t₂,
        let t := after p (ms ++ [m, turnOf (after p ms).opened t₁, turnOf (after p ms).opened t₂])
        (t.gateway.ledger stage.request.account).Follows
          (((after p ms).gateway.ledger stage.request.account).book.drop n))
  /-- It was waiting for its broadcast: no ledger has changed. Its transaction is watched and left
  to be stored if it could be entered, and nothing is watched or left otherwise. -/
  | onItsWay {sent : Record} {raw : Bytes} (stage_eq : stage.stage = .broadcasting sent raw)
      (ledgers_eq : (after p (ms ++ [m])).gateway.ledgers = (after p ms).gateway.ledgers)
      (pending : sent.status = .pending)
      (watched : (after p ms).gateway.watchlist.Admits sent →
        (after p (ms ++ [m])).gateway.watchlist.lookup? sent.hash = some sent ∧
          (after p (ms ++ [m])).calls =
            ((after p ms).calls.erase c).set (after p ms).opened (.chore (.saving sent)))
      (refused : ¬ (after p ms).gateway.watchlist.Admits sent →
        (after p (ms ++ [m])).gateway.watchlist = (after p ms).gateway.watchlist ∧
          (after p (ms ++ [m])).calls = (after p ms).calls.erase c)
  /-- It was giving its nonce back, or waiting for the store: nothing has changed but that it is at
  its end. -/
  | late (rank_eq : stage.stage.rank = 3)
      (state_eq : after p (ms ++ [m]) = { after p ms with calls := (after p ms).calls.erase c })

/-- A run in which a submission claims nonce 7 of an account whose transactions the chain has none
of, and waits for a price. -/
def namedRun (a : Address) : List Moment :=
  let request : Request := { account := a, payload := ⟨a, [], 0, 21000⟩, choice := .named 7 }
  [.start (.submit request), .reply 0 0 (.count 0), .reply 0 0 .done, .reply 0 0 .done,
    .reply 0 0 .done].map fun e => ⟨⟨0⟩, .event e⟩

end System

end TxGateway
