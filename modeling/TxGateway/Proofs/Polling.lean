import TxGateway.Proofs.Tracking

/-!
# A poll settles on what the chain tells

A poll asks for the receipt, and for the transaction itself if that leaves something open. If a
question fails or is not answered in time, the poll returns that failure and has changed nothing.
Otherwise the record that it finds when the answers are in gets the time, and the status unless it
has become final in the meantime. Everything else can happen while the poll waits.
-/

namespace TxGateway

/-- What comes of a question to the chain. -/
inductive ChainAnswer (α : Type)
  /-- The chain tells what it has been asked for. -/
  | told (value : α)
  /-- The question fails. -/
  | failed (failure : Failure)
  /-- No answer comes in time. -/
  | silent
  deriving DecidableEq, Repr

namespace ChainAnswer

variable {α : Type}

/-- The answer to a call, given how what the chain tells is passed on. -/
def toReply (f : α → Reply) : ChainAnswer α → Reply
  | told value => f value
  | failed e => .failed e
  | silent => .silence

/-- The failure of a question with a name, if it fails. -/
def failure? (operation : String) : ChainAnswer α → Option Failure
  | told _ => none
  | failed e => some e
  | silent => some (.timeout operation)

end ChainAnswer

namespace Poll

/-- Whether a transaction has been out for longer than a policy waits for it. One that seems to be
sent in the future has been out for no time. -/
def Overdue (p : Policy) (submittedAt now : Timestamp) : Prop :=
  p.dropAfter.nanos < (now.nanos - submittedAt.nanos).toNat

/-- Whether a receipt, or its absence, leaves it open what has become of a transaction. -/
def LeavesOpen (p : Policy) (submittedAt now : Timestamp) : Option Receipt → Prop
  | some receipt => receipt.success = false
  | none => Overdue p submittedAt now

instance (p : Policy) (submittedAt now : Timestamp) : Decidable (Overdue p submittedAt now) :=
  inferInstanceAs (Decidable (_ < _))

instance (p : Policy) (submittedAt now : Timestamp) :
    (receipt : Option Receipt) → Decidable (LeavesOpen p submittedAt now receipt)
  | some receipt => inferInstanceAs (Decidable (receipt.success = false))
  | none => inferInstanceAs (Decidable (Overdue p submittedAt now))

/-- The status of a transaction of which the receipt, or its absence, says enough. -/
def statusOf : Option Receipt → Status
  | some receipt => .confirmed receipt
  | none => .pending

/-- The status of a transaction for which the node has been asked after its receipt. -/
def statusWith (p : Policy) : Option Receipt → Option TransactionBody → Status
  | some receipt, some body => p.gas.classify receipt body.gasLimit
  | some receipt, none => .failed receipt
  | none, some _ => .pending
  | none, none => .dropped

section

variable (p : Policy) (now : Timestamp)

theorem verdict?_of_failure {c : Poll} {α : Type} (f : α → Reply) {answer : ChainAnswer α}
    {e : Failure} (h : answer.failure? c.operation = some e) :
    c.verdict? p now (answer.toReply f) = some (.failed e) := by
  cases answer <;> cases h <;> rfl

theorem verdict?_receipt (h : TxHash) (submittedAt : Timestamp) (receipt : Option Receipt) :
    verdict? p now ⟨h, submittedAt, .receipt⟩ (.receipt receipt) =
      some (if LeavesOpen p submittedAt now receipt then .undecided receipt
        else .decided (statusOf receipt)) := by
  cases receipt with
  | some receipt => cases hs : receipt.success <;> simp [verdict?, LeavesOpen, statusOf, hs]
  | none =>
      by_cases hover : Overdue p submittedAt now
      · have hage : ¬ (now.since submittedAt).nanos ≤ p.dropAfter.nanos := Nat.not_le.mpr hover
        simp [verdict?, LeavesOpen, hover, hage]
      · have hage : (now.since submittedAt).nanos ≤ p.dropAfter.nanos := Nat.not_lt.mp hover
        simp [verdict?, LeavesOpen, statusOf, hover, hage]

theorem verdict?_transaction (h : TxHash) (submittedAt : Timestamp) (receipt : Option Receipt)
    (body : Option TransactionBody) :
    verdict? p now ⟨h, submittedAt, .transaction receipt⟩ (.transaction body) =
      some (.decided (statusWith p receipt body)) := by
  cases receipt <;> cases body <;> rfl

end

/-- A gateway takes in a status of a transaction at some time and becomes another one; the poll
comes to a result. -/
structure TakesIn (h : TxHash) (now : Timestamp) (status : Status) (g g' : Gateway)
    (result : Except Failure Watchlist.Observation) : Prop where
  /-- A record whose outcome is open gets the status and the time. -/
  settles : ∀ r, g.watchlist.lookup? h = some r → r.status = .pending →
    g'.watchlist.lookup? h = some { r with status := status, lastPolledAt := some now } ∧
      result = .ok ⟨{ r with status := status, lastPolledAt := some now }, status.isFinal⟩
  /-- A record that has become final gets the time only. -/
  stays : ∀ r, g.watchlist.lookup? h = some r → r.status ≠ .pending →
    g'.watchlist.lookup? h = some { r with lastPolledAt := some now } ∧
      result = .ok ⟨{ r with lastPolledAt := some now }, false⟩
  /-- A transaction that is not watched any more is unknown. -/
  unknown : g.watchlist.lookup? h = none → g' = g ∧ result = .error (.unknownTransaction h)
  /-- The other records are as before. -/
  others : ∀ k, k ≠ h → g'.watchlist.lookup? k = g.watchlist.lookup? k
  /-- The nonces are used by the same transactions. -/
  holders_eq : g'.watchlist.holders = g.watchlist.holders
  /-- The ledgers are as before. -/
  ledgers_eq : g'.ledgers = g.ledgers

/-- The status of a transaction that is watched is taken in by its watchlist alone. -/
theorem apply_of_watched {h : TxHash} {g : Gateway} {r : Record} (now : Timestamp)
    (status : Status) (hr : g.watchlist.lookup? h = some r) :
    ∃ o, g.watchlist.polled? h now status = some ((apply now g h status).1.watchlist, o) ∧
      (apply now g h status).1.ledgers = g.ledgers ∧ (apply now g h status).2 = .ok o := by
  cases hp : g.watchlist.polled? h now status with
  | none =>
      have hget : g.watchlist.records.get? h = some r := hr
      simp only [Watchlist.polled?, hget] at hp
      cases hp
  | some observed =>
      obtain ⟨w, o⟩ := observed
      refine ⟨o, ?_, ?_, by simp only [apply, hp]⟩
      · simp only [apply, hp]
        split <;> rfl
      · simp only [apply, hp]
        split <;> rfl

theorem takesIn_apply (h : TxHash) (now : Timestamp) (status : Status) (g : Gateway) :
    TakesIn h now status g (apply now g h status).1 (apply now g h status).2 := by
  cases hr : g.watchlist.lookup? h with
  | none =>
      have happly : apply now g h status = (g, .error (.unknownTransaction h)) := by
        have hget : g.watchlist.records.get? h = none := hr
        simp only [apply, Watchlist.polled?, hget]
      rw [happly]
      exact ⟨fun r hr' => (by rw [hr] at hr'; cases hr'),
        fun r hr' => (by rw [hr] at hr'; cases hr'), fun _ => ⟨rfl, rfl⟩, fun _ _ => rfl, rfl, rfl⟩
  | some r =>
      obtain ⟨o, hp, hledgers, hresult⟩ := apply_of_watched now status hr
      obtain ⟨r', hr', -, hholders, hrecord, hchanged⟩ := Watchlist.polled?_eq_some hp
      cases hr.symm.trans hr'
      have hlookup := Watchlist.lookup?_of_polled hp
      refine ⟨?_, ?_, ?_, ?_, hholders, hledgers⟩
      · intro r' hr' hpending
        cases hr.symm.trans hr'
        have hlive := Record.isLive_of_pending hpending
        rw [hlive, if_pos rfl] at hrecord
        rw [hlive, Bool.true_and] at hchanged
        rw [hresult, hlookup, if_pos rfl, ← hrecord, ← hchanged]
        exact ⟨rfl, rfl⟩
      · intro r' hr' hfinal
        cases hr.symm.trans hr'
        have hnot : r.isLive = false := by
          cases hlive : r.isLive with
          | false => rfl
          | true => exact absurd (Record.status_of_isLive hlive) hfinal
        rw [hnot, if_neg Bool.false_ne_true] at hrecord
        rw [hnot, Bool.false_and] at hchanged
        rw [hresult, hlookup, if_pos rfl, ← hrecord, ← hchanged]
        exact ⟨rfl, rfl⟩
      · intro hnone
        rw [hr] at hnone
        cases hnone
      · intro k hk
        rw [hlookup, if_neg hk]

end Poll

namespace System

/-- A poll waits for the answer to a question, for as long as polls do. -/
def Awaits (p : Policy) (i : Nat) (q : Query) (s : System) : Prop :=
  s.queries i = [(0, q)] ∧ p.patience? q = some p.pollTimeout

/-- With an answer a poll ends in a failure, which is counted; nothing else changes. -/
structure PollFails (p : Policy) (i : Nat) (now : Timestamp) (reply : Reply) (e : Failure)
    (s : System) : Prop where
  /-- The failure is returned. -/
  ending_eq : (s.reply p now i 0 reply).2.ending = some (.returned (.error e))
  /-- It is counted. -/
  gateway_eq : (s.reply p now i 0 reply).1.gateway = s.gateway.measure (·.pollError)

/-- With an answer a poll ends, and a status of its transaction is taken in. -/
def PollSettles (p : Policy) (i : Nat) (h : TxHash) (now : Timestamp) (reply : Reply)
    (status : Status) (s : System) : Prop :=
  ∃ result, Poll.TakesIn h now status s.gateway (s.reply p now i 0 reply).1.gateway result ∧
    (s.reply p now i 0 reply).2.ending = some (.returned (result.map .observed))

/-- None of the moments is about a call. -/
def Elsewhere (i : Nat) (ms : List Moment) : Prop := ∀ m ∈ ms, m.call? ≠ some i

section

variable {p : Policy} {s : System} {c i : Nat} {q : Poll} {h : TxHash} {t now : Timestamp}
  {ms more : List Moment}

/-- While other things happen a call waits for what it has waited for. -/
theorem get?_after_elsewhere (hc : c < (after p ms).opened) (hmore : Elsewhere c more) :
    (after p (ms ++ more)).calls.get? c = (after p ms).calls.get? c ∧
      c < (after p (ms ++ more)).opened := by
  induction more using List.reverseRecOn with
  | nil => exact ⟨by rw [List.append_nil], by rwa [List.append_nil]⟩
  | append_singleton more m ih =>
      obtain ⟨hget, hlt⟩ := ih fun m' hm' => hmore m' (by simp [hm'])
      rw [← List.append_assoc, after_append, get?_pass_of_ne hlt p (hmore m (by simp)), hget]
      exact ⟨rfl, hlt.trans_le (opened_le_pass _ p m)⟩

/-- A call polls a transaction, and has a number that has been given out. -/
def Polls (i : Nat) (q : Poll) (s : System) : Prop :=
  s.calls.get? i = some (.poll q) ∧ i < s.opened

theorem Polls.elsewhere (hq : Polls i q (after p ms)) (hmore : Elsewhere i more) :
    Polls i q (after p (ms ++ more)) := by
  obtain ⟨hget, hlt⟩ := get?_after_elsewhere hq.2 hmore
  exact ⟨hget.trans hq.1, hlt⟩

theorem Polls.awaits (hq : Polls i q s) : Awaits p i q.query s := by
  constructor
  · simp only [queries, hq.1, Call.queries]
  · simp only [Poll.query]
    split <;> rfl

theorem Polls.fails (hq : Polls i q s) {α : Type} {f : α → Reply} {answer : ChainAnswer α}
    {e : Failure} (he : answer.failure? q.operation = some e) :
    PollFails p i now (answer.toReply f) e s := by
  have hverdict := Poll.verdict?_of_failure p now f he
  have hcrash : ∀ crash, answer.toReply f ≠ .crashed crash := by
    intro crash
    cases answer with
    | told value => cases he
    | failed e => exact fun heq => by cases heq
    | silent => exact fun heq => by cases heq
  constructor <;>
    simp [reply, hq.1, Call.resume_eq_proceed hcrash, Call.proceed, Poll.resume, hverdict,
      Progress.map, Ending.ofResult, Except.map]

theorem Polls.settles (hq : Polls i q s) {r : Reply} {status : Status}
    (hr : ∀ crash, r ≠ .crashed crash) (hverdict : q.verdict? p now r = some (.decided status)) :
    PollSettles p i q.hash now r status s := by
  refine ⟨(Poll.apply now s.gateway q.hash status).2, ?_, ?_⟩
  · have hgateway : (s.reply p now i 0 r).1.gateway =
        (Poll.apply now s.gateway q.hash status).1 := by
      simp [reply, hq.1, Call.resume_eq_proceed hr, Call.proceed, Poll.resume, hverdict,
        Progress.map, Ending.ofResult]
    rw [hgateway]
    exact Poll.takesIn_apply q.hash now status s.gateway
  · simp [reply, hq.1, Call.resume_eq_proceed hr, Call.proceed, Poll.resume, hverdict,
      Progress.map, Ending.ofResult]

/-- A poll that the receipt leaves in doubt asks on, and changes nothing. -/
theorem Polls.asksOn {receipt : Option Receipt} (hq : Polls i ⟨h, t, .receipt⟩ s)
    (hopen : Poll.LeavesOpen p t now receipt) :
    (s.pass p ⟨now, .event (.reply i 0 (.receipt receipt))⟩).gateway = s.gateway ∧
      Polls i ⟨h, t, .transaction receipt⟩
        (s.pass p ⟨now, .event (.reply i 0 (.receipt receipt))⟩) := by
  have hverdict := Poll.verdict?_receipt p now h t receipt
  rw [if_pos hopen] at hverdict
  simp [Polls, pass, step, reply, hq.1, hq.2, Call.resume, Call.proceed, Poll.resume, hverdict,
    Progress.map]

theorem polls_start {r : Record} (hr : s.gateway.watchlist.lookup? h = some r)
    (hpending : r.status = .pending) (now : Timestamp) :
    (s.pass p ⟨now, .event (.start (.poll h))⟩).gateway = s.gateway ∧
      Polls s.opened ⟨h, r.submittedAt, .receipt⟩
        (s.pass p ⟨now, .event (.start (.poll h))⟩) := by
  simp [Polls, pass, step, start, Call.start, Poll.start, hr, Record.isLive_of_pending hpending,
    Progress.map, enroll]

end

/-- In every run, for a poll of a transaction whose outcome is open when it begins, whatever happens
while it waits and at whatever times the answers come: a failure or silence is returned and changes
nothing; otherwise the transaction gets the status that the answers stand for, unless it has become
final in the meantime. The transaction itself is asked for only where the receipt, or its absence,
leaves its outcome open, and its age counts at the time of that answer. -/
theorem poll_settles (p : Policy) (ms : List Moment) (h : TxHash) (r : Record) (t₀ : Timestamp)
    (hr : (after p ms).gateway.watchlist.lookup? h = some r) (hpending : r.status = .pending) :
    let i := (after p ms).opened
    let begun := ms ++ [⟨t₀, .event (.start (.poll h))⟩]
    (after p begun).gateway = (after p ms).gateway ∧
    ∀ ms₁, Elsewhere i ms₁ → Awaits p i (.receipt h) (after p (begun ++ ms₁)) ∧
    ∀ t₁,
      (∀ (answer : ChainAnswer (Option Receipt)) e,
        answer.failure? "get transaction receipt" = some e →
        PollFails p i t₁ (answer.toReply .receipt) e (after p (begun ++ ms₁))) ∧
      ∀ receipt,
        (¬ Poll.LeavesOpen p r.submittedAt t₁ receipt →
          PollSettles p i h t₁ (.receipt receipt) (Poll.statusOf receipt)
            (after p (begun ++ ms₁))) ∧
        (Poll.LeavesOpen p r.submittedAt t₁ receipt →
          let asked := begun ++ ms₁ ++ [⟨t₁, .event (.reply i 0 (.receipt receipt))⟩]
          (after p asked).gateway = (after p (begun ++ ms₁)).gateway ∧
          ∀ ms₂, Elsewhere i ms₂ → Awaits p i (.transaction h) (after p (asked ++ ms₂)) ∧
          ∀ t₂,
            (∀ (answer : ChainAnswer (Option TransactionBody)) e,
              answer.failure? "get transaction" = some e →
              PollFails p i t₂ (answer.toReply .transaction) e (after p (asked ++ ms₂))) ∧
            ∀ body, PollSettles p i h t₂ (.transaction body) (Poll.statusWith p receipt body)
              (after p (asked ++ ms₂))) := by
  intro i begun
  have hstart := polls_start (p := p) hr hpending t₀
  rw [← after_append] at hstart
  refine ⟨hstart.1, fun ms₁ hms₁ => ?_⟩
  have hfirst : Polls i ⟨h, r.submittedAt, .receipt⟩ (after p (begun ++ ms₁)) :=
    hstart.2.elsewhere hms₁
  refine ⟨hfirst.awaits, fun t₁ => ⟨fun answer e he => hfirst.fails he, fun receipt => ?_⟩⟩
  constructor
  · intro hclear
    apply hfirst.settles (fun crash heq => by cases heq)
    rw [Poll.verdict?_receipt, if_neg hclear]
  · intro hopen asked
    have hasked := hfirst.asksOn hopen
    rw [← after_append] at hasked
    refine ⟨hasked.1, fun ms₂ hms₂ => ?_⟩
    have hsecond : Polls i ⟨h, r.submittedAt, .transaction receipt⟩ (after p (asked ++ ms₂)) :=
      hasked.2.elsewhere hms₂
    refine ⟨hsecond.awaits, fun t₂ => ⟨fun answer e he => hsecond.fails he, fun body => ?_⟩⟩
    apply hsecond.settles (fun crash heq => by cases heq)
    exact Poll.verdict?_transaction p t₂ h r.submittedAt receipt body

/-- Ten minutes after a transaction has been sent, a poll finds neither a receipt nor the
transaction, while another poll goes on: the transaction is dropped. One nanosecond earlier, the
absence of a receipt is enough for it to stay pending. -/
theorem poll_settles_after_ten_minutes :
    let ms := (resubmissionRun ⟨0⟩ ⟨7⟩).take 9
    let r : Record := .fresh ⟨0⟩ ⟨⟨0⟩, ⟨0⟩, 5, ⟨7⟩⟩
    let late : Timestamp := ⟨600000000001⟩
    let early : Timestamp := ⟨600000000000⟩
    let begun := ms ++ [⟨late, .event (.start (.poll ⟨7⟩))⟩]
    let asked := begun ++ [⟨late, .event (.reply 1 0 (.receipt none))⟩]
    let other : List Moment := [⟨late, .event (.start (.poll ⟨7⟩))⟩]
    (after {} ms).gateway.watchlist.lookup? ⟨7⟩ = some r ∧ r.status = .pending ∧
      PollSettles {} 1 ⟨7⟩ late (.transaction none) .dropped (after {} (asked ++ other)) ∧
      PollSettles {} 1 ⟨7⟩ early (.receipt none) .pending (after {} begun) ∧
      PollFails {} 1 late .silence (.timeout "get transaction receipt") (after {} begun) := by
  intro ms r late early begun asked other
  have hr : (after {} ms).gateway.watchlist.lookup? ⟨7⟩ = some r := rfl
  have helsewhere : Elsewhere 1 other := by simp [Elsewhere, other, Moment.call?]
  obtain ⟨-, hpoll⟩ := poll_settles {} ms ⟨7⟩ r late hr rfl
  obtain ⟨-, hfirst⟩ := hpoll [] (by simp [Elsewhere])
  simp only [List.append_nil] at hfirst
  obtain ⟨-, hasked⟩ := ((hfirst late).2 none).2 (by decide)
  obtain ⟨-, hsecond⟩ := hasked other helsewhere
  refine ⟨hr, rfl, (hsecond late).2 none, ((hfirst early).2 none).1 (by decide), ?_⟩
  exact (hfirst late).1 .silent _ rfl

end System

end TxGateway
