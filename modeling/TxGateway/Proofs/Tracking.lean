import TxGateway.Proofs.HandOut
import TxGateway.Proofs.Index

/-!
# What the node may hold is watched, unless its hash is known already

When the wait of a submission for its broadcast ends without a refusal, the node may hold the
transaction. It is then watched exactly if it can be entered. In an orderly run nothing stands in
the way but a hash that is known already, as that of a transaction that was dropped and sent again
in the same bytes.
-/

namespace TxGateway

/-- The hash by which a signature of no bytes is known. -/
theorem TxHash.ofRaw_nil : TxHash.ofRaw [] =
    ⟨0xc5d2460186f7233c927e7db2dcc703c0e500b653ca82273b7bfad8045d85a470⟩ := by
  decide +kernel

namespace System

variable {p : Policy} {s : System} {m : Moment} {c n : Nat} {a : Address} {sent r : Record}

/-- A transaction with the account and the nonce of a record is watched under its hash, and its
outcome is open. -/
def Watches (r : Record) (s : System) : Prop :=
  ∃ r', s.gateway.watchlist.lookup? r.hash = some r' ∧ r'.account = r.account ∧
    r'.nonce = r.nonce ∧ r'.status = .pending

/-- When the wait for a broadcast is concluded, no ledger changes. -/
theorem OnItsWay.ledger_eq (h : OnItsWay c sent s) (hr : m.concludes? c sent = some r)
    (b : Address) : (s.pass p m).gateway.ledger b = s.gateway.ledger b := by
  rw [ledger_pass, (h.concluded (p := p) hr).1]
  rfl

/-- A record that can be entered is watched afterwards. -/
theorem OnItsWay.lookup?_of_admits (h : OnItsWay c sent s) (hr : m.concludes? c sent = some r)
    (hadmits : s.gateway.watchlist.Admits r) :
    (s.pass p m).gateway.watchlist.lookup? r.hash = some r := by
  obtain ⟨-, hgateway, -⟩ := h.concluded (p := p) hr
  obtain ⟨w', he⟩ := (s.gateway.watchlist.admits_iff r).mp hadmits
  rcases s.gateway.watch_cases r with ⟨g', hwatch, hentered, -⟩ | ⟨g', conflict, -, hrefused, -⟩
  · rw [hgateway, hwatch, (Watchlist.lookup?_of_enter hentered).2, if_pos rfl]
  · rw [hrefused] at he
    cases he

/-- A record that cannot be entered leaves the watchlist as it is. -/
theorem OnItsWay.watchlist_eq (h : OnItsWay c sent s) (hr : m.concludes? c sent = some r)
    (hno : ¬ s.gateway.watchlist.Admits r) :
    (s.pass p m).gateway.watchlist = s.gateway.watchlist := by
  obtain ⟨-, hgateway, -⟩ := h.concluded (p := p) hr
  rcases s.gateway.watch_cases r with ⟨g', -, hentered, -⟩ | ⟨g', conflict, hwatch, -, hsteady⟩
  · exact absurd ((s.gateway.watchlist.admits_iff r).mpr ⟨_, hentered⟩) hno
  · rw [hgateway, hwatch]
    exact hsteady.watchlist_eq

/-- The transaction is watched afterwards exactly if it can be entered, or was watched before. -/
theorem OnItsWay.watches_iff (h : OnItsWay c sent s) (hr : m.concludes? c sent = some r)
    (hopen : r.status = .pending) :
    Watches r (s.pass p m) ↔ s.gateway.watchlist.Admits r ∨ Watches r s := by
  by_cases hadmits : s.gateway.watchlist.Admits r
  · constructor
    · intro _
      exact .inl hadmits
    · intro _
      exact ⟨r, h.lookup?_of_admits hr hadmits, rfl, rfl, hopen⟩
  · rw [or_iff_right hadmits]
    simp only [Watches, h.watchlist_eq hr hadmits]

/-- No watched transaction has the nonce of a transaction on its way. -/
theorem OnItsWay.not_watched (h : OnItsWay c sent s) (ho : s.Orderly)
    (hc : s.Coupled sent.account) :
    .nonce sent.account sent.nonce ∉ s.gateway.watchlist.held := by
  have hpending := (h.fresh (sound_of_orderly ho)).1
  obtain ⟨request, raw, hget⟩ := h
  have hheld : .nonce sent.account sent.nonce ∈ s.held := by
    refine (Table.mem_tally Call.held).mpr ⟨c, _, hget, ?_⟩
    simp [Call.held, Submit.held, Record.held_of_pending hpending]
  exact not_mem_of_count_add_le (hc.unique sent.nonce) hheld

/-- A submission has had its transaction accepted and watched, and waits for the store. -/
def Saving (c : Nat) (submission : Submission) (s : System) : Prop :=
  ∃ request record, s.calls.get? c = some (.submit ⟨request, .saving submission record⟩)

/-- A submission ends as soon as the store has answered, whatever the answer is, with its account,
nonce and hash; and it ends in no other way. -/
structure EndsWell (p : Policy) (c : Nat) (submission : Submission) (s : System) : Prop where
  /-- The store has taken the record. -/
  done : ∀ now slot,
    (s.reply p now c slot .done).2.ending = some (.ofValue (.submitted submission))
  /-- The store has failed. -/
  failed : ∀ now slot e,
    (s.reply p now c slot (.failed e)).2.ending = some (.ofValue (.submitted submission))
  /-- There is no other end. -/
  only : ∀ now slot reply ending, (s.reply p now c slot reply).2.ending = some ending →
    ending = .ofValue (.submitted submission)

/-- An accepted transaction that can be entered is stored next; one that cannot be entered makes its
submission fail. -/
theorem OnItsWay.accepted (h : OnItsWay c sent s) (now : Timestamp) (slot : Nat) (hash : TxHash) :
    let submission : Submission := ⟨sent.id, sent.account, sent.nonce, hash⟩
    let t := s.reply p now c slot (.accepted hash)
    (s.gateway.watchlist.Admits (.fresh now submission) → Saving c submission t.1) ∧
      (¬ s.gateway.watchlist.Admits (.fresh now submission) →
        ∃ message, t.2.ending = some (.returned (.error (.violation message)))) := by
  intro submission t
  obtain ⟨request, raw, hget⟩ := h
  rw [Watchlist.admits_iff]
  rcases s.gateway.watch_cases (.fresh now submission) with
    ⟨g', hwatch, hentered, -⟩ | ⟨g', conflict, hwatch, hrefused, -⟩
  · constructor
    · intro _
      refine ⟨request, .fresh now submission, ?_⟩
      simp [t, System.reply, hget, Call.resume, Call.proceed, Submit.resume, Submit.accept, hwatch,
        submission, Progress.map]
    · intro hno
      exact absurd ⟨_, hentered⟩ hno
  · constructor
    · rintro ⟨w, hw⟩
      rw [hrefused] at hw
      cases hw
    · intro _
      refine ⟨conflict.message, ?_⟩
      simp [t, System.reply, hget, Call.resume, Call.proceed, Submit.resume, Submit.accept, hwatch,
        submission, Progress.map, Submit.fail, Ending.map, Except.map]

section

variable {submission : Submission}

theorem Saving.endsWell (h : Saving c submission s) : EndsWell p c submission s := by
  obtain ⟨request, record, hget⟩ := h
  constructor
  · intro now slot
    simp only [System.reply, hget]
    rfl
  · intro now slot e
    simp only [System.reply, hget]
    rfl
  · intro now slot reply ending hend
    cases reply with
    | done =>
        simp only [System.reply, hget] at hend
        cases hend
        rfl
    | failed e =>
        simp only [System.reply, hget] at hend
        cases hend
        rfl
    | crashed crash =>
        have hquiet :
            (Call.submit ⟨request, .saving submission record⟩).looksOutward slot = false := by
          simp [Call.looksOutward, Call.queries, Submit.query, Query.isOutward]
        simp [System.reply, hget, Call.resume, hquiet] at hend
    | _ =>
        simp only [System.reply, hget] at hend
        cases hend

/-- A submission that waits for the store goes on waiting until it has ended or is dropped. -/
theorem Saving.pass (h : Saving c submission s) (hc : c < s.opened) :
    Saving c submission (s.pass p m) ∨ Gone c (s.pass p m) := by
  obtain ⟨request, record, hget⟩ := h
  by_cases hm : m.call? = some c
  · rcases get?_pass_of_call (p := p) hc hget hm with
      ⟨hgone, -⟩ | hstay | ⟨slot, r, -, hcrash, hnext⟩
    · exact .inr hgone
    · exact .inl ⟨request, record, hstay ▸ hget⟩
    · cases r with
      | done => exact .inr hnext
      | failed e => exact .inr hnext
      | crashed crash => exact absurd rfl (hcrash crash)
      | _ => exact .inl ⟨request, record, hnext⟩
  · rw [← get?_pass_of_ne hc p hm] at hget
    exact .inl ⟨request, record, hget⟩

/-- From any moment of a run on at which a submission waits for the store, it does so, or it is
gone. -/
theorem Saving.after {ms : List Moment} {i : Nat} (h : Saving c submission (upTo p ms i))
    (hi : i ≤ ms.length) : Saving c submission (after p ms) ∨ Gone c (after p ms) := by
  have hopened : c < (upTo p ms i).opened := by
    obtain ⟨request, record, hget⟩ := h
    exact (sound_after p _).lt_opened c _ hget
  have hall : c < (System.after p ms).opened ∧
      (Saving c submission (System.after p ms) ∨ Gone c (System.after p ms)) := by
    apply after_induction_from (P := fun s =>
      c < s.opened ∧ (Saving c submission s ∨ Gone c s)) hi
    · exact ⟨hopened, .inl h⟩
    · intro k m _ _ ⟨hc, hstage⟩
      refine ⟨hc.trans_le (opened_le_pass _ p m), ?_⟩
      rcases hstage with hsaving | hgone
      · exact hsaving.pass hc
      · exact .inr (get?_pass_of_none hc p m hgone)
  exact hall.2

end

section

variable {ms : List Moment} {i : Nat}

/-- From any moment of an orderly run on at which a transaction is live, it stays live until a poll
settles it. -/
theorem Live.after (h : Live r (upTo p ms i)) (hi : i ≤ ms.length)
    (hms : ∀ m ∈ ms, m.IsOrderly) :
    Live r (after p ms) ∨ ∃ k status, i ≤ k ∧ At p ms k (Settles p r status) := by
  apply after_induction_from (P := fun s =>
    Live r s ∨ ∃ k status, i ≤ k ∧ At p ms k (Settles p r status)) hi
  · exact .inl h
  · intro k m hik hmk hk
    rcases hk with hlive | hsettled
    · rcases hlive.pass (orderly_upTo hms k) (hms m (List.mem_of_getElem? hmk)) with
        hstill | ⟨status, hsettles, -⟩
      · exact .inl hstill
      · exact .inr ⟨k, status, hik, m, hmk, hsettles⟩
    · exact .inr hsettled

/-- A nonce that is locked at a moment of a regular run stays locked. -/
theorem Locked.later (h : Locked a n (upTo p ms i)) (hms : IsRegular p ms a) {k : Nat}
    (hik : i ≤ k) (hk : k ≤ ms.length) : Locked a n (upTo p ms k) := by
  apply upTo_induction (P := fun _ => Locked a n) hik hk h
  intro l m _ _ hm hl
  exact hl.pass (hms.coupled l) (hms.orderly l) (hms.kept l)
    (hms.isOrderly m (List.mem_of_getElem? hm))

theorem Locked.after (h : Locked a n (upTo p ms i)) (hi : i ≤ ms.length)
    (hms : IsRegular p ms a) : Locked a n (after p ms) := by
  have hlast := h.later hms hi le_rfl
  rwa [upTo_length] at hlast

end

/-- What follows when, after a run, the wait of a submission for its broadcast is concluded and a
record is to be watched. -/
structure Aftermath (p : Policy) (ms : List Moment) (m : Moment) (c : Nat) (sent r : Record) :
    Prop where
  /-- The record tells of the transaction on its way, under the hash that the node has reported or
  under that of the signed bytes. -/
  told : r.id = sent.id ∧ r.account = sent.account ∧ r.nonce = sent.nonce ∧ r.status = .pending ∧
    ((∃ slot, m.what = .event (.reply c slot (.accepted r.hash))) ∨ ∃ request raw,
      (after p ms).calls.get? c = some (.submit ⟨request, .broadcasting sent raw⟩) ∧
        r.hash = TxHash.ofRaw raw)
  /-- Its nonce is secured and it is watched with its outcome open exactly if the nonce was secured
  and the record can be entered, or if it was watched already. -/
  watched_iff : ((after p (ms ++ [m])).book r.account).Secures r.nonce ∧
      Watches r (after p (ms ++ [m])) ↔
    ((after p ms).book r.account).Secures r.nonce ∧
      ((after p ms).gateway.watchlist.Admits r ∨ Watches r (after p ms))
  /-- If the node has accepted the transaction and it can be entered, the submission can only end
  well, however the run goes on. -/
  accepted : ∀ slot hash, m.what = .event (.reply c slot (.accepted hash)) →
    (after p ms).gateway.watchlist.Admits r →
    EndsWell p c r.submission (after p (ms ++ [m])) ∧ ∀ more : List Moment,
      EndsWell p c r.submission (after p (ms ++ m :: more)) ∨ Gone c (after p (ms ++ m :: more))
  /-- If the node has accepted the transaction and it cannot be entered, the submission fails. -/
  conflict : ∀ slot hash, m.what = .event (.reply c slot (.accepted hash)) →
    ¬ (after p ms).gateway.watchlist.Admits r → ∃ message,
      ((after p ms).reply p m.now c slot (.accepted hash)).2.ending =
        some (.returned (.error (.violation message)))
  /-- In a regular run the nonce is secured in any case. -/
  secured : IsRegular p ms r.account → ((after p (ms ++ [m])).book r.account).Secures r.nonce
  /-- In a regular run a record can be entered exactly if its hash is not known. -/
  admits_iff : IsRegular p ms r.account → ((after p ms).gateway.watchlist.Admits r ↔
    (after p ms).gateway.watchlist.lookup? r.hash = none)
  /-- In a regular run the transaction is watched exactly if its hash was not known. -/
  unknown_iff : IsRegular p ms r.account → (Watches r (after p (ms ++ [m])) ↔
    (after p ms).gateway.watchlist.lookup? r.hash = none)
  /-- Then it stays watched with its outcome open and its nonce stays secured, until a poll settles
  it. -/
  unknown : (after p ms).gateway.watchlist.lookup? r.hash = none →
    ∀ more : List Moment, IsRegular p (ms ++ m :: more) r.account →
      (Live r (after p (ms ++ m :: more)) ∧
          ((after p (ms ++ m :: more)).book r.account).Secures r.nonce) ∨
        ∃ k status, ms.length < k ∧ At p (ms ++ m :: more) k (Settles p r status)
  /-- Otherwise nothing is left by which the nonce could be given back. -/
  known : (after p ms).gateway.watchlist.lookup? r.hash ≠ none →
    ∀ more : List Moment, IsRegular p (ms ++ m :: more) r.account →
      Locked r.account r.nonce (after p (ms ++ m :: more))

theorem upTo_append_cons (p : Policy) (ms : List Moment) (m : Moment) (more : List Moment) :
    upTo p (ms ++ m :: more) (ms.length + 1) = (after p ms).pass p m := by
  rw [← after_append, upTo]
  congr 1
  simp [List.take_append]

/-- In an orderly run a record of a transaction on its way can be entered unless its hash is
known. -/
theorem OnItsWay.admits_iff (h : OnItsWay c sent s) (hr : m.concludes? c sent = some r)
    (ho : s.Orderly) (hc : s.Coupled r.account) (hi : s.gateway.watchlist.Indexed) :
    s.gateway.watchlist.Admits r ↔ s.gateway.watchlist.lookup? r.hash = none := by
  obtain ⟨-, haccount, hnonce, -⟩ := concluded_eq hr (h.fresh (sound_of_orderly ho)).1
  constructor
  · intro hadmits
    exact hadmits.1
  · intro hnew
    refine ⟨hnew, hi.liveHolder?_eq_none ?_⟩
    rw [haccount] at hc ⊢
    rw [hnonce]
    exact h.not_watched ho hc

/-- What the submission has in hand, no watched transaction has. -/
theorem OnItsWay.not_watches (h : OnItsWay c sent s) (hr : m.concludes? c sent = some r)
    (ho : s.Orderly) (hc : s.Coupled r.account) : ¬ Watches r s := by
  obtain ⟨-, haccount, hnonce, -⟩ := concluded_eq hr (h.fresh (sound_of_orderly ho)).1
  rintro ⟨r', hr', haccount', hnonce', hpending⟩
  rw [haccount] at hc
  apply h.not_watched ho hc
  rw [← haccount, ← hnonce, ← haccount', ← hnonce']
  apply Watchlist.mem_held_of_lookup? hr'
  rw [Record.held_of_pending hpending]
  exact Multiset.mem_cons_of_mem (Multiset.mem_singleton_self _)

/-- The record is to be watched under the hash that the node has reported, or under that of the
signed bytes. -/
theorem OnItsWay.hash_eq (h : OnItsWay c sent s) (hr : m.concludes? c sent = some r)
    (hs : s.CallsAre Call.Sound) :
    (∃ slot, m.what = .event (.reply c slot (.accepted r.hash))) ∨ ∃ request raw,
      s.calls.get? c = some (.submit ⟨request, .broadcasting sent raw⟩) ∧
        r.hash = TxHash.ofRaw raw := by
  rcases Moment.concludes?_eq_some hr with ⟨slot, hash, hwhat, rfl⟩ | rfl
  · exact .inl ⟨slot, hwhat⟩
  · obtain ⟨-, request, raw, hget, -, hhash⟩ := h.fresh hs
    exact .inr ⟨request, raw, hget, hhash⟩

/-- An answer that tells of acceptance fixes the record. -/
theorem eq_fresh_of_accepted {slot : Nat} {hash : TxHash} (hr : m.concludes? c sent = some r)
    (hwhat : m.what = .event (.reply c slot (.accepted hash))) :
    r = .fresh m.now ⟨sent.id, sent.account, sent.nonce, hash⟩ := by
  rw [Moment.concludes?, hwhat] at hr
  simp only [if_true, Submit.concluded?] at hr
  exact (Option.some.inj hr).symm

/-- An accepted submission can end only well from then on, if its transaction can be entered. -/
theorem OnItsWay.endsWell {ms : List Moment} {slot : Nat} {hash : TxHash}
    (h : OnItsWay c sent (after p ms)) (hr : m.concludes? c sent = some r)
    (hwhat : m.what = .event (.reply c slot (.accepted hash)))
    (hadmits : (after p ms).gateway.watchlist.Admits r) :
    EndsWell p c r.submission (after p (ms ++ [m])) ∧ ∀ more : List Moment,
      EndsWell p c r.submission (after p (ms ++ m :: more)) ∨
        Gone c (after p (ms ++ m :: more)) := by
  have heq := eq_fresh_of_accepted hr hwhat
  have hsaving : Saving c r.submission ((after p ms).pass p m) := by
    obtain ⟨now, what⟩ := m
    cases hwhat
    rw [heq] at hadmits ⊢
    exact (h.accepted now slot hash).1 hadmits
  constructor
  · rw [after_append]
    exact hsaving.endsWell
  · intro more
    rw [← upTo_append_cons p ms m more] at hsaving
    have hlength : ms.length + 1 ≤ (ms ++ m :: more).length := by simp
    rcases hsaving.after hlength with hstill | hgone
    · exact .inl hstill.endsWell
    · exact .inr hgone

/-- The wait for a broadcast comes to an end without a refusal. Then the nonce is secured and the
transaction is watched exactly if the nonce was secured and the record could be entered, or if it
was watched already; and an accepted submission can end only well exactly then. In an orderly run in
which the greatest nonce of the account is never pending, nothing but a hash that is known already
stands in the way. -/
theorem watched_unless_known (ms : List Moment) (hway : OnItsWay c sent (after p ms))
    (hr : m.concludes? c sent = some r) : Aftermath p ms m c sent r := by
  have hsound := sound_after p ms
  obtain ⟨hid, haccount, hnonce, hopen⟩ := concluded_eq hr (hway.fresh hsound).1
  have hbook : (after p (ms ++ [m])).book r.account = (after p ms).book r.account := by
    rw [after_append, book, hway.ledger_eq hr]
    rfl
  have hwatches : Watches r (after p (ms ++ [m])) ↔
      (after p ms).gateway.watchlist.Admits r ∨ Watches r (after p ms) := by
    rw [after_append]
    exact hway.watches_iff hr hopen
  have hadmits : IsRegular p ms r.account → ((after p ms).gateway.watchlist.Admits r ↔
      (after p ms).gateway.watchlist.lookup? r.hash = none) := fun hms =>
    hway.admits_iff hr hms.orderly_after hms.coupled_after (indexed_after p ms hms.isOrderly)
  have hlength : ∀ more : List Moment, ms.length + 1 ≤ (ms ++ m :: more).length := by
    intro more
    simp
  refine ⟨?_, ?_, ?_, ?_, ?_, hadmits, ?_, ?_, ?_⟩
  · exact ⟨hid, haccount, hnonce, hopen, hway.hash_eq hr hsound⟩
  · rw [hbook, hwatches]
  · intro slot hash hwhat hadmits
    exact hway.endsWell hr hwhat hadmits
  · intro slot hash hwhat hno
    rw [eq_fresh_of_accepted hr hwhat] at hno
    exact (hway.accepted m.now slot hash).2 hno
  · intro hms
    rw [hbook]
    apply hms.coupled_after.secures
    rw [haccount, hnonce]
    exact hway.mem_inHand hms.orderly_after
  · intro hms
    rw [hwatches, ← hadmits hms]
    exact or_iff_left (hway.not_watches hr hms.orderly_after hms.coupled_after)
  · intro hnew more hmore
    have hlive : Live r (upTo p (ms ++ m :: more) (ms.length + 1)) := by
      rw [upTo_append_cons]
      exact ⟨r, hway.lookup?_of_admits hr ((hadmits hmore.of_append).mpr hnew), rfl, hopen⟩
    rcases hlive.after (hlength more) hmore.isOrderly with hlive | hsettled
    · refine .inl ⟨hlive, ?_⟩
      exact hmore.coupled_after.secures _ hlive.mem_inHand
    · exact .inr hsettled
  · intro hknown more hmore
    have hms : IsRegular p ms r.account := hmore.of_append
    apply Locked.after _ (hlength more) hmore
    rw [haccount] at hms
    rw [upTo_append_cons, haccount, hnonce]
    rcases hway.tracks (p := p) hr hms.coupled_after hms.orderly_after hms.kept_after with
      htracks | hlocked
    · exact absurd htracks.unknown hknown
    · exact hlocked

/-- A run in which a transaction is accepted, is found dropped ten minutes later, and is sent again:
the same nonce, payload and price, hence the same bytes. -/
def resubmissionRun (a : Address) (hash : TxHash) : List Moment :=
  let request : Request := { account := a, payload := ⟨a, [], 0, 21000⟩ }
  let start : Timestamp := ⟨0⟩
  let later : Timestamp := start.later (.ofSeconds 601)
  let first : List Event := [.start (.submit request), .reply 0 0 (.count 5), .reply 0 0 .done,
    .reply 0 0 .done, .reply 0 0 .done, .reply 0 0 (.price (.legacy 1)), .reply 0 0 (.signed []),
    .reply 0 0 (.accepted hash), .reply 0 0 .done]
  let second : List Event := [.start (.settle hash), .reply 1 0 (.receipt none),
    .reply 1 0 (.transaction none), .reply 1 0 .done, .reply 1 0 .done, .reply 1 0 .done,
    .start (.submit request), .reply 2 0 .done, .reply 2 0 (.count 5), .reply 2 0 .done,
    .reply 2 0 .done, .reply 2 0 .done, .reply 2 0 (.price (.legacy 1)), .reply 2 0 (.signed [])]
  (first.map fun e => ⟨start, .event e⟩) ++ second.map fun e => ⟨later, .event e⟩

theorem isOrderly_resubmissionRun (a : Address) (hash : TxHash) :
    ∀ m ∈ resubmissionRun a hash, m.IsOrderly := by
  simp [resubmissionRun, Moment.IsOrderly, Task.isOrderly]

/-- The wait of the first submission of that run ends in silence, and its transaction is watched. -/
theorem first_submission_watched :
    let ms := (resubmissionRun ⟨0⟩ ⟨7⟩).take 7
    let m : Moment := ⟨⟨0⟩, .event (.reply 0 0 .silence)⟩
    ∃ sent r, OnItsWay 0 sent (after {} ms) ∧ m.concludes? 0 sent = some r ∧
      Aftermath {} ms m 0 sent r ∧ Watches r (after {} (ms ++ [m])) := by
  intro ms m
  have hregular : IsRegular {} ms ⟨0⟩ :=
    ⟨fun m hm => isOrderly_resubmissionRun ⟨0⟩ ⟨7⟩ m (List.mem_of_mem_take hm),
      leavesRoom_of_length (by decide +kernel)⟩
  have haftermath := watched_unless_known (p := {}) (m := m) (c := 0) ms ⟨_, _, rfl⟩ rfl
  exact ⟨_, _, ⟨_, _, rfl⟩, rfl, haftermath, (haftermath.unknown_iff hregular).mpr rfl⟩

/-- The node accepts the second submission of that run. The submission fails, its nonce stays
pending, and the only record that there is says that the transaction has been dropped. -/
theorem resubmission_not_watched :
    (∀ m ∈ resubmissionRun ⟨0⟩ (TxHash.ofRaw []), m.IsOrderly) ∧
      (after {} (resubmissionRun ⟨0⟩ (TxHash.ofRaw []))).queries 2 = [(0, .broadcast [])] ∧
      ∃ t effect message,
        (after {} (resubmissionRun ⟨0⟩ (TxHash.ofRaw []))).reply {} ⟨601000000000⟩ 2 0
          (.accepted (TxHash.ofRaw [])) = (t, effect) ∧
        effect.ending = some (.returned (.error (.violation message))) ∧
        t.gateway.pendingNonces ⟨0⟩ = [5] ∧
        t.gateway.watchlist.records.entries.map (fun e => (e.1, e.2.nonce, e.2.status)) =
          [(TxHash.ofRaw [], 5, .dropped)] := by
  rw [TxHash.ofRaw_nil]
  exact ⟨isOrderly_resubmissionRun _ _, rfl, _, _, _, rfl, rfl, rfl, rfl⟩

end System

end TxGateway
