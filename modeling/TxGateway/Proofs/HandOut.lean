import TxGateway.Proofs.Watching

/-!
# A nonce is handed out again only if its transaction cannot be mined any more

The fate of a submission that has been given a nonce is followed through an orderly run. As long as
its transaction may be with the node the nonce is in hand, or it is locked; so if the nonce is
handed out again, the submission never called for its broadcast, or the node refused, or a poll
found the transaction dropped. All this is about an account for which the greatest nonce is never
pending.
-/

namespace TxGateway.System

variable {p : Policy} {s : System} {m : Moment} {c n : Nat} {a : Address} {sent r : Record}

/-- A submission is given a nonce. -/
def Given (c : Nat) (a : Address) (n : Nat) (s : System) (m : Moment) : Prop :=
  ∃ (request : Request) (slot : Nat), request.account = a ∧ m.what = .event (.reply c slot .done) ∧
    s.calls.get? c = some (.submit ⟨request, .obtaining .turn⟩) ∧
    (s.gateway.obtain a request.choice).2 = some (.ok n)

/-- The wait of a submission for its broadcast is concluded, and its transaction is watched under a
hash that was not watched before. -/
structure Tracks (p : Policy) (c : Nat) (r : Record) (s : System) (m : Moment) : Prop where
  /-- The submission was waiting for its broadcast. -/
  concluded : ∃ sent, OnItsWay c sent s ∧ m.concludes? c sent = some r
  /-- The hash was not watched. -/
  unknown : s.gateway.watchlist.lookup? r.hash = none
  /-- The record is entered. -/
  tracked : (s.pass p m).gateway.watchlist.lookup? r.hash = some r
  /-- Its outcome is open. -/
  pending : r.status = .pending

/-- What a submission is given has been handed out. -/
theorem Given.handsOut (h : Given c a n s m) : HandsOut a n s m := by
  obtain ⟨request, slot, rfl, hm, hget, hgot⟩ := h
  refine ⟨request.choice, ?_, hgot⟩
  simp [turn?, hm, hget, Call.turn?, Call.turnOf?, Submit.turn?, Obtain.turn?]

theorem Given.unsent (h : Given c a n s m) (hc : c < s.opened) : Unsent c a n (s.pass p m) := by
  obtain ⟨request, slot, rfl, hm, hget, hgot⟩ := h
  obtain ⟨now, what⟩ := m
  cases hm
  refine ⟨request, rfl, .inl ?_⟩
  have hnext := get?_reply hc p now c slot .done
  rw [if_pos rfl, hget, Option.bind_some] at hnext
  cases hx : s.gateway.obtain request.account request.choice with
  | mk g result =>
      rw [hx] at hgot
      cases hgot
      simp only [Call.resume, Call.proceed, Submit.resume, Obtain.resume, hx] at hnext
      exact hnext

section

theorem Unsent.not_onItsWay (h : Unsent c a n s) : ¬ OnItsWay c sent s := by
  rintro ⟨request, raw, hget⟩
  obtain ⟨_, _, hstage | ⟨_, hstage⟩⟩ := h
  · rw [hstage] at hget
    cases hget
  · rw [hstage] at hget
    cases hget

theorem GivingUp.not_onItsWay (h : GivingUp c a n s) : ¬ OnItsWay c sent s := by
  rintro ⟨request, raw, hget⟩
  obtain ⟨_, _, _, hstage⟩ := h
  rw [hstage] at hget
  cases hget

theorem Gone.not_onItsWay (h : Gone c s) : ¬ OnItsWay c sent s := by
  rintro ⟨request, raw, hget⟩
  rw [Gone, hget] at h
  cases h

/-- What a call has in hand is in hand. -/
theorem mem_inHand {d : Call} {x : Token} (hd : s.calls.get? c = some d) (hx : x ∈ d.held) :
    x ∈ s.inHand :=
  Multiset.mem_add.mpr (.inl ((Table.mem_tally Call.held).mpr ⟨c, d, hd, hx⟩))

theorem Unsent.mem_inHand (h : Unsent c a n s) : .nonce a n ∈ s.inHand := by
  obtain ⟨request, rfl, hget | ⟨price, hget⟩⟩ := h
  · exact System.mem_inHand hget (Multiset.mem_singleton_self _)
  · exact System.mem_inHand hget (Multiset.mem_singleton_self _)

theorem GivingUp.mem_inHand (h : GivingUp c a n s) : .nonce a n ∈ s.inHand := by
  obtain ⟨request, e, rfl, hget⟩ := h
  exact System.mem_inHand hget (Multiset.mem_singleton_self _)

theorem OnItsWay.mem_inHand (h : OnItsWay c sent s) (ho : s.Orderly) :
    .nonce sent.account sent.nonce ∈ s.inHand := by
  have hpending := (h.fresh (sound_of_orderly ho)).1
  obtain ⟨request, raw, hget⟩ := h
  apply System.mem_inHand hget
  simp [Call.held, Submit.held, Record.held_of_pending hpending]

theorem Live.mem_inHand (h : Live r s) : .nonce r.account r.nonce ∈ s.inHand :=
  Multiset.mem_add.mpr (.inr h.mem_held.1)

end

/-- The record that is to be watched tells of the same account, nonce and serial number. -/
theorem concluded_eq (hr : m.concludes? c sent = some r) (hsent : sent.status = .pending) :
    r.id = sent.id ∧ r.account = sent.account ∧ r.nonce = sent.nonce ∧ r.status = .pending := by
  rcases Moment.concludes?_eq_some hr with ⟨slot, hash, -, rfl⟩ | rfl
  · exact ⟨rfl, rfl, rfl, rfl⟩
  · exact ⟨rfl, rfl, rfl, hsent⟩

/-- After the wait for a broadcast the transaction is watched, or its nonce is locked. -/
theorem OnItsWay.tracks (h : OnItsWay c sent s) (hr : m.concludes? c sent = some r)
    (hc : s.Coupled sent.account) (ho : s.Orderly) (hk : (s.gateway.ledger sent.account).Kept) :
    Tracks p c r s m ∨ Locked sent.account sent.nonce (s.pass p m) := by
  obtain ⟨hturn, hgateway, hcalls⟩ := h.concluded (p := p) hr
  have hpending := (h.fresh (sound_of_orderly ho)).1
  obtain ⟨-, -, -, hopen⟩ := concluded_eq hr hpending
  rcases s.gateway.watch_cases r with ⟨g', hwatch, hentered, -⟩ | ⟨g', conflict, hwatch, -, hsteady⟩
  · rw [hwatch] at hgateway
    obtain ⟨hnew, hlookup⟩ := Watchlist.lookup?_of_enter hentered
    refine .inl ⟨⟨sent, h, hr⟩, hnew, ?_, hopen⟩
    rw [hgateway, hlookup, if_pos rfl]
  · rw [hwatch] at hgateway
    have hin := h.mem_inHand ho
    obtain ⟨request, raw, hget⟩ := h
    obtain ⟨rest, hall, -, herase⟩ := Table.exists_rest Call.held hget
    refine .inr (hc.locked_pass hk hin hturn ?_)
    -- Both the nonce and the serial number have got out of hand.
    have hleft : (s.pass p m).held = rest := by
      rw [held, hcalls _ (by rw [hwatch]), herase]
    rw [inHand_eq, inHand_eq, hleft, hgateway, hsteady.watchlist_eq, held, hall,
      ← Multiset.cons_add]
    apply add_le_add_left
    simp only [Call.held, Submit.held, Record.held_of_pending hpending]
    rw [Multiset.cons_add, Multiset.singleton_add]
    exact Multiset.le_cons_self _ _

/-- What has become, in a run, of the submission that was given a nonce at a moment. -/
inductive Fate (p : Policy) (ms : List Moment) (i c : Nat) (a : Address) (n k : Nat) (s : System) :
    Prop
  /-- It has the nonce, and nothing has been sent. -/
  | unsent (h : Unsent c a n s)
      (never : ∀ l, i < l → l ≤ k → ∀ sent, ¬ OnItsWay c sent (upTo p ms l))
  /-- It is about to give the nonce back, and nothing has been sent. -/
  | givingUp (h : GivingUp c a n s)
      (never : ∀ l, i < l → l ≤ k → ∀ sent, ¬ OnItsWay c sent (upTo p ms l))
  /-- It has ended, and nothing has been sent. -/
  | gone (h : Gone c s) (never : ∀ l, i < l → l ≤ k → ∀ sent, ¬ OnItsWay c sent (upTo p ms l))
  /-- The transaction is on its way. -/
  | onItsWay {sent : Record} (h : OnItsWay c sent s) (account_eq : sent.account = a)
      (nonce_eq : sent.nonce = n)
  /-- The node has refused the transaction. -/
  | refused {l : Nat} {sent : Record} (hil : i < l) (hlk : l < k) (account_eq : sent.account = a)
      (nonce_eq : sent.nonce = n) (h : At p ms l (Refuses c sent))
  /-- The transaction is watched, and its outcome is open. -/
  | live {l : Nat} {r : Record} (hil : i < l) (hlk : l < k) (account_eq : r.account = a)
      (nonce_eq : r.nonce = n) (tracked : At p ms l (Tracks p c r)) (h : Live r s)
  /-- A poll has found the transaction dropped. -/
  | dropped {l l' : Nat} {r : Record} (hil : i < l) (hll' : l < l') (hl'k : l' < k)
      (account_eq : r.account = a) (nonce_eq : r.nonce = n) (tracked : At p ms l (Tracks p c r))
      (drops : At p ms l' (Settles p r .dropped)) (h : Spent r.id s)
  /-- The nonce is in nobody's hands, and will not be handed out again. -/
  | locked (h : Locked a n s)

/-- What a moment makes of the fate of a submission. -/
theorem Fate.pass {ms : List Moment} {i k : Nat} (h : Fate p ms i c a n k (upTo p ms k))
    (hik : i < k) (hmk : ms[k]? = some m) (hc : c < (upTo p ms k).opened)
    (hnumbered : (upTo p ms k).Numbered) (hcoupled : (upTo p ms k).Coupled a)
    (ho : (upTo p ms k).Orderly) (hk : ((upTo p ms k).gateway.ledger a).Kept)
    (hm : m.IsOrderly) :
    Fate p ms i c a n (k + 1) ((upTo p ms k).pass p m) := by
  have hnever : (∀ l, i < l → l ≤ k → ∀ sent, ¬ OnItsWay c sent (upTo p ms l)) →
      (∀ sent, ¬ OnItsWay c sent ((upTo p ms k).pass p m)) →
      ∀ l, i < l → l ≤ k + 1 → ∀ sent, ¬ OnItsWay c sent (upTo p ms l) := by
    intro hbefore hnow l hil hlk
    rcases Nat.lt_or_eq_of_le hlk with hlt | rfl
    · exact hbefore l hil (Nat.le_of_lt_succ hlt)
    · rw [upTo_succ hmk]
      exact hnow
  cases h with
  | unsent h never =>
      rcases h.pass (p := p) (m := m) hc with h | h | h | ⟨sent, hway, haccount, hnonce⟩
      · exact .unsent h (hnever never fun _ => h.not_onItsWay)
      · exact .givingUp h (hnever never fun _ => h.not_onItsWay)
      · exact .gone h (hnever never fun _ => h.not_onItsWay)
      · exact .onItsWay hway haccount hnonce
  | givingUp h never =>
      rcases h.pass (p := p) (m := m) hc with h | h
      · exact .givingUp h (hnever never fun _ => h.not_onItsWay)
      · exact .gone h (hnever never fun _ => h.not_onItsWay)
  | gone h never =>
      have hgone : Gone c ((upTo p ms k).pass p m) := get?_pass_of_none hc p m h
      exact .gone hgone (hnever never fun _ => hgone.not_onItsWay)
  | onItsWay h account_eq nonce_eq =>
      rcases h.pass (p := p) (m := m) hc with hstay | hrefused | ⟨r, hr⟩
      · exact .onItsWay hstay account_eq nonce_eq
      · exact .refused hik (Nat.lt_succ_self k) account_eq nonce_eq ⟨m, hmk, hrefused⟩
      · obtain ⟨-, haccount, hnonce, -⟩ := concluded_eq hr (h.fresh (sound_of_orderly ho)).1
        subst account_eq
        subst nonce_eq
        rcases h.tracks (p := p) hr hcoupled ho hk with htracks | hlocked
        · exact .live hik (Nat.lt_succ_self k) haccount hnonce ⟨m, hmk, htracks⟩
            ⟨r, htracks.tracked, rfl, htracks.pending⟩
        · exact .locked hlocked
  | refused hil hlk account_eq nonce_eq h =>
      exact .refused hil (Nat.lt_succ_of_lt hlk) account_eq nonce_eq h
  | live hil hlk account_eq nonce_eq tracked h =>
      rcases h.pass (p := p) ho hm with hlive | ⟨status, hsettles, hspent, hlocked⟩
      · exact .live hil (Nat.lt_succ_of_lt hlk) account_eq nonce_eq tracked hlive
      · by_cases hdropped : status = .dropped
        · subst hdropped
          exact .dropped hil hlk (Nat.lt_succ_self k) account_eq nonce_eq tracked
            ⟨m, hmk, hsettles⟩ (hspent rfl hnumbered)
        · subst account_eq
          subst nonce_eq
          exact .locked (hlocked hdropped hcoupled hk)
  | dropped hil hll' hl'k account_eq nonce_eq tracked drops h =>
      exact .dropped hil hll' (Nat.lt_succ_of_lt hl'k) account_eq nonce_eq tracked drops
        (h.pass ho hm)
  | locked h => exact .locked (h.pass hcoupled ho hk hm)

/-- Why a nonce that a submission was given at one moment of a run is free at a later one. -/
inductive Freed (p : Policy) (ms : List Moment) (i j c : Nat) (a : Address) (n : Nat) : Prop
  /-- The submission has ended without having called for its broadcast. -/
  | neverSent (gone : Gone c (upTo p ms j))
      (never : ∀ k, i < k → k ≤ j → ∀ sent, ¬ OnItsWay c sent (upTo p ms k))
  /-- The node has refused the transaction. -/
  | refused {k : Nat} {sent : Record} (hik : i < k) (hkj : k < j) (account_eq : sent.account = a)
      (nonce_eq : sent.nonce = n) (refuses : At p ms k (Refuses c sent))
  /-- A poll has found dropped the transaction that the submission had put on the watchlist, and
  whatever record there is of this submission says so. -/
  | dropped {k l : Nat} {r : Record} (hik : i < k) (hkl : k < l) (hlj : l < j)
      (account_eq : r.account = a) (nonce_eq : r.nonce = n) (tracks : At p ms k (Tracks p c r))
      (drops : At p ms l (Settles p r .dropped))
      (settled : ∀ h r', (upTo p ms j).gateway.watchlist.lookup? h = some r' → r'.id = r.id →
        r'.status = .dropped)

/-- A run in which a transaction is refused by the node, and its nonce is given to the next
submission. -/
def refusalRun (a : Address) : List Moment :=
  let request : Request := { account := a, payload := ⟨a, [], 0, 21000⟩ }
  [.start (.submit request), .reply 0 0 (.count 5), .reply 0 0 .done, .reply 0 0 .done,
    .reply 0 0 .done, .reply 0 0 (.price (.legacy 1)), .reply 0 0 (.signed []),
    .reply 0 0 (.rejected "underpriced"), .reply 0 0 .done, .start (.submit request),
    .reply 1 0 .done, .reply 1 0 .done].map fun e => ⟨⟨0⟩, .event e⟩

/-- A run in which a transaction is accepted by the node, a second submission names the greatest
nonce, and a third one asks for a nonce and signs its transaction. -/
def roundTrip (a : Address) (hash : TxHash) : List Moment :=
  let request : Request := { account := a, payload := ⟨a, [], 0, 21000⟩ }
  [.start (.submit request), .reply 0 0 (.count 0), .reply 0 0 .done, .reply 0 0 .done,
    .reply 0 0 .done, .reply 0 0 (.price (.legacy 1)), .reply 0 0 (.signed []),
    .reply 0 0 (.accepted hash), .reply 0 0 .done,
    .start (.submit { request with choice := .named Ledger.lastNonce }), .reply 1 0 .done,
    .reply 1 0 .done, .start (.submit request), .reply 2 0 .done, .reply 2 0 .done,
    .reply 2 0 (.price (.legacy 1)), .reply 2 0 (.signed [])].map fun e => ⟨⟨0⟩, .event e⟩

end TxGateway.System
