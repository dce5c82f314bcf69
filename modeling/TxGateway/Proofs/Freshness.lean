import TxGateway.Proofs.Readings

/-!
# A stale ledger is brought up to date before the next submission

Before it gets a nonce a submission looks once at the age of the ledger. If the ledger has been made
stale before, the submission asks the chain itself, unless somebody else has taken a count in
between. So it is given a nonce only after a count has been taken in that was asked for afterwards,
but for two cases: it had looked before the ledger was made stale, or a count that had been asked
for before came in between.
-/

namespace TxGateway

section

variable {a : Address} {p : Policy} {now : Timestamp} {g : Gateway} {reply : Reply}

/-- Only taking a count in makes a stale ledger fresh. -/
theorem Turn.refreshedAt_apply {l : Ledger} {t : Turn} (h : l.refreshedAt = none)
    (ht : ∀ n, t ≠ .confirm n) : (t.apply now l).refreshedAt = none := by
  cases t with
  | confirm n => exact absurd rfl (ht n)
  | obtain choice =>
      cases hs : l.seeded with
      | false => simpa [apply, hs] using h
      | true =>
          cases choice with
          | next =>
              simp only [apply, hs, Ledger.handOut, Bool.not_true, Bool.false_eq_true, if_false]
              split <;> exact h
          | named n =>
              simp only [apply, hs, Ledger.claim_eq, Bool.not_true, Bool.false_eq_true, if_false]
              split <;> rename_i hclaim
              · split at hclaim <;> cases hclaim
                exact h
              · exact h
  | giveBack n =>
      simp only [apply, Ledger.giveBack?]
      split <;> exact h
  | expire => rfl

theorem Gateway.refreshedAt_of_not_needsReconcile {maxAge : Duration}
    (h : g.needsReconcile now a maxAge = false) : (g.ledger a).refreshedAt ≠ none := by
  intro hstale
  simp only [needsReconcile] at h
  split at h
  · cases h
  · rename_i l hget
    rw [g.ledger_of_get? a hget] at hstale
    simp [Ledger.isStale, hstale] at h

theorem Submit.request_resume {c d : Submit} (h : (c.resume p now g reply).2 = .waiting d) :
    d.request = c.request := by
  simp only [resume, toObtain, fail, returnNonce, send, accept, hold] at h
  split at h
  all_goals first
    | (cases h <;> rfl)
    | (split at h <;> cases h <;> rfl)

/-- A submission that looks at the age of the ledger asks the chain, or the ledger is not stale. -/
theorem Submit.looks_of_resume {request : Request} {d : Submit}
    (h : ((⟨request, .aging⟩ : Submit).resume p now g reply).2 = .waiting d)
    (hd : d.stage ≠ .aging) :
    reply = .done ∧
      (d.stage = .refreshing .asking ∨ (g.ledger request.account).refreshedAt ≠ none) := by
  cases reply with
  | done =>
      simp only [resume] at h
      split at h
      · cases h
        exact ⟨rfl, .inl rfl⟩
      · rename_i hfresh
        exact ⟨rfl, .inr (g.refreshedAt_of_not_needsReconcile (Bool.eq_false_iff.mpr hfresh))⟩
  | _ =>
      cases h
      exact absurd rfl hd

/-- A submission that brings its ledger up to date goes on to do so, or takes the count in. -/
theorem Submit.confirms_of_resume {request : Request} {r : Reconcile} {d : Submit}
    (h : ((⟨request, .refreshing r⟩ : Submit).resume p now g reply).2 = .waiting d) :
    (∃ r', d.stage = .refreshing r') ∨ ∃ n, r = .applying n ∧ reply = .done := by
  cases r with
  | asking =>
      cases reply with
      | failed e => cases h
      | _ =>
          cases h
          exact .inl ⟨_, rfl⟩
  | applying n =>
      cases reply with
      | done => exact .inr ⟨n, rfl, rfl⟩
      | _ =>
          cases h
          exact .inl ⟨_, rfl⟩

end

namespace System

variable {p : Policy} {ms : List Moment} {s : System} {m : Moment} {a : Address} {c i k n q : Nat}

/-- The ledger of an account is made stale. -/
def Expires (a : Address) (s : System) (m : Moment) : Prop := s.turn? m = some (a, .expire)

/-- A submission looks at the age of the ledger of its account, or finds that there is none. -/
def Looks (c : Nat) (a : Address) (s : System) (m : Moment) : Prop :=
  ∃ request : Request, request.account = a ∧
    ((m.what = .event (.start (.submit request)) ∧ c = s.opened ∧
        s.gateway.ledgers.contains a = false) ∨
      ∃ slot, m.what = .event (.reply c slot .done) ∧
        s.calls.get? c = some (.submit ⟨request, .aging⟩))

/-- A submission is in progress and has looked at the age of the ledger. -/
def HasLooked (c : Nat) (a : Address) (s : System) : Prop :=
  ∃ request stage, request.account = a ∧ stage ≠ .aging ∧
    s.calls.get? c = some (.submit ⟨request, stage⟩)

/-- A submission brings the ledger of its account up to date before it gets a nonce. -/
def Refreshes (c : Nat) (a : Address) (s : System) : Prop :=
  ∃ request r, request.account = a ∧ s.calls.get? c = some (.submit ⟨request, .refreshing r⟩)

/-- A stale ledger stays stale until a count is taken in. -/
theorem takesIn_of_refreshedAt (h : (s.gateway.ledger a).refreshedAt = none)
    (hfresh : ((s.pass p m).gateway.ledger a).refreshedAt ≠ none) : ∃ n, TakesIn a n s m := by
  rw [ledger_pass] at hfresh
  cases hturn : s.turn? m with
  | none =>
      rw [hturn] at hfresh
      exact absurd h hfresh
  | some t =>
      obtain ⟨b, t⟩ := t
      rw [hturn, Gateway.afterTurn_some] at hfresh
      split at hfresh
      · rename_i hab
        subst hab
        by_contra hno
        apply hfresh
        apply Turn.refreshedAt_apply h
        rintro n rfl
        exact hno ⟨n, hturn⟩
      · exact absurd h hfresh

/-- A submission comes to have looked by looking. Then it has not been reading the chain, and it
begins to, unless the ledger is not stale. -/
theorem looks_of_hasLooked (hs : s.CallsAre Call.Sound) (hbefore : ¬ HasLooked c a s)
    (hafter : HasLooked c a (s.pass p m)) :
    Looks c a s m ∧ s.reading? c = none ∧
      (Refreshes c a (s.pass p m) ∨ (s.gateway.ledger a).refreshedAt ≠ none) := by
  obtain ⟨request, stage, rfl, hstage, hget⟩ := hafter
  cases comes_of_get?_pass hget with
  | stays hstays => exact absurd ⟨request, stage, rfl, hstage, hstays⟩ hbefore
  | @resumes slot r before hwhat hwas hresume _ =>
      obtain ⟨before, rfl, heq | hnext⟩ := Call.submit_of_resume hresume
      · exact absurd ⟨request, stage, rfl, hstage, heq ▸ hwas⟩ hbefore
      · have hrequest := Submit.request_resume hnext
        obtain ⟨request', stage'⟩ := before
        obtain rfl : request = request' := hrequest
        have haging : stage' = .aging := by
          by_contra hother
          exact hbefore ⟨request, stage', rfl, hother, hwas⟩
        subst haging
        obtain ⟨rfl, hasks | hfresh⟩ := Submit.looks_of_resume hnext hstage
        · obtain rfl : stage = .refreshing .asking := hasks
          refine ⟨⟨request, rfl, .inr ⟨slot, hwhat, hwas⟩⟩, ?_, .inl ⟨request, _, rfl, hget⟩⟩
          rw [reading?, hwas]
          rfl
        · refine ⟨⟨request, rfl, .inr ⟨slot, hwhat, hwas⟩⟩, ?_, .inr hfresh⟩
          rw [reading?, hwas]
          rfl
  | starts hwhat heq hstart _ =>
      obtain ⟨request', rfl, hsubmit⟩ := Call.submit_of_start hstart
      simp only [Submit.start] at hsubmit
      split at hsubmit
      · cases hsubmit
        exact absurd rfl hstage
      · rename_i hnone
        cases hsubmit
        refine ⟨⟨request, rfl, .inl ⟨hwhat, heq, Bool.eq_false_iff.mpr hnone⟩⟩, ?_,
          .inl ⟨request, _, rfl, hget⟩⟩
        rw [reading?, hs.get?_opened heq.ge]
        rfl
  | chore heq hle => cases heq

/-- A submission that does not bring its ledger up to date any more has taken a count in. -/
theorem takesIn_of_refreshes (hs : s.CallsAre Call.Sound) (hbefore : Refreshes c a s)
    (hafter : HasLooked c a (s.pass p m)) (hno : ¬ Refreshes c a (s.pass p m)) :
    m.call? = some c ∧ ∃ n, TakesIn a n s m := by
  obtain ⟨request, stage, rfl, hstage, hget⟩ := hafter
  obtain ⟨request', r, haccount, hwas⟩ := hbefore
  cases comes_of_get?_pass hget with
  | stays hstays =>
      cases hstays.symm.trans hwas
      exact absurd ⟨request, r, rfl, hget⟩ hno
  | @resumes slot reply before hwhat hwas' hresume _ =>
      cases hwas'.symm.trans hwas
      obtain ⟨before, heq, hsame | hnext⟩ := Call.submit_of_resume hresume
      · cases heq
        cases hsame
        exact absurd ⟨request, r, rfl, hget⟩ hno
      · cases heq
        obtain ⟨r', rfl⟩ | ⟨n, rfl, rfl⟩ := Submit.confirms_of_resume hnext
        · exact absurd ⟨request, r', rfl, hget⟩ hno
        · refine ⟨by simp [Moment.call?, hwhat], n, ?_⟩
          simp [TakesIn, turn?, hwhat, hwas, Call.turn?, Call.turnOf?, Submit.turn?,
            Reconcile.turn?, haccount]
  | starts hwhat heq hstart _ =>
      rw [hs.get?_opened heq.ge] at hwas
      cases hwas
  | chore heq hle => cases heq

/-- Why a submission is given a nonce at a moment of a run after its ledger has been made stale at
an earlier one. -/
inductive Reread (p : Policy) (ms : List Moment) (a : Address) (c i k : Nat) : Prop
  /-- A count has been taken in that was asked for after the ledger was made stale. -/
  | fresh {d n j t l : Nat} (hij : i < j) (hlk : l < k) (reads : Reads p ms a d n j t l)
  /-- The submission had looked at the age of the ledger before. -/
  | looked {q : Nat} (hqi : q < i) (looks : At p ms q (Looks c a))
  /-- A count that was asked for before was taken in afterwards, and only then did the submission
  look. -/
  | overtaken {d n j t l q : Nat} (hji : j ≤ i) (hil : i < l) (hlq : l < q) (hqk : q < k)
      (reads : Reads p ms a d n j t l) (looks : At p ms q (Looks c a))

theorem Given.hasLooked (h : Given c a n s m) : HasLooked c a s := by
  obtain ⟨request, slot, rfl, -, hget, -⟩ := h
  refine ⟨request, _, rfl, ?_, hget⟩
  intro heq
  cases heq

theorem Given.not_refreshes (h : Given c a n s m) : ¬ Refreshes c a s := by
  obtain ⟨request, slot, rfl, -, hget, -⟩ := h
  rintro ⟨request', r, -, hget'⟩
  cases hget.symm.trans hget'

theorem Looks.turn?_eq (h : Looks c a s m) : s.turn? m = none := by
  obtain ⟨request, -, ⟨hwhat, -⟩ | ⟨slot, hwhat, hget⟩⟩ := h
  · simp [turn?, hwhat]
  · simp [turn?, hwhat, hget, Call.turn?, Call.turnOf?, Submit.turn?]

/-- A submission that asks the chain takes in a count that it has asked for itself. -/
theorem exists_reads_of_refreshes (hk : k ≤ ms.length) (hqk : q < k)
    (hquiet : (upTo p ms q).reading? c = none)
    (hall : ∀ l, q < l → l ≤ k → HasLooked c a (upTo p ms l))
    (hfirst : Refreshes c a (upTo p ms (q + 1))) (hlast : ¬ Refreshes c a (upTo p ms k)) :
    ∃ n j t l, q ≤ j ∧ l < k ∧ Reads p ms a c n j t l := by
  obtain ⟨l, hql, hlk, hrefreshes, hdone⟩ := exists_last_not
    (P := fun l => ¬ Refreshes c a (upTo p ms l)) hqk (not_not.mpr hfirst) hlast
  have hml : ms[l]? = some ms[l] := List.getElem?_eq_getElem (hlk.trans_le hk)
  have hlooked := hall (l + 1) (Nat.lt_succ_of_lt hql) hlk
  have hafter := hdone (l + 1) (Nat.lt_succ_self l) hlk
  rw [upTo_succ hml] at hlooked hafter
  obtain ⟨hcall, n, htakes⟩ := takesIn_of_refreshes (s := upTo p ms l) (sound_after p _)
    (not_not.mp hrefreshes) hlooked hafter
  obtain ⟨d, j, t, hreads⟩ := exists_reads ⟨_, hml, htakes⟩
  obtain ⟨m', hm', hcall', -⟩ := hreads.takes
  cases hml.symm.trans hm'
  obtain rfl : d = c := Option.some.inj (hcall'.symm.trans hcall)
  refine ⟨n, j, t, l, ?_, hlk, hreads⟩
  -- It was not reading when it looked, so it asked then or later.
  by_contra hjq
  have hread : ∃ x, (upTo p ms q).reading? d = some x := by
    rcases Nat.lt_or_ge t q with htq | hqt
    · exact ⟨_, hreads.applying q htq (Nat.le_of_lt hql)⟩
    · exact ⟨_, hreads.asking q (Nat.lt_of_not_le hjq) hqt⟩
  obtain ⟨x, hx⟩ := hread
  rw [hquiet] at hx
  cases hx

/-- In every run, whatever calls there are: if a submission is given a nonce after the ledger of its
account has been made stale, then a count has been taken in that was asked for afterwards, or the
submission had looked at the age of the ledger before, or a count that was asked for before was
taken in between. -/
theorem reread_before_given (p : Policy) (ms : List Moment) (hik : i < k)
    (hexpires : At p ms i (Expires a)) (hgiven : At p ms k (Given c a n)) :
    Reread p ms a c i k := by
  obtain ⟨mi, hmi, hexpires⟩ := hexpires
  obtain ⟨mk, hmk, hgiven⟩ := hgiven
  have hmoment : ∀ l, l < k → ∃ m, ms[l]? = some m := fun l hl =>
    ⟨_, List.getElem?_eq_getElem (hl.trans_le (le_length hmk))⟩
  -- The submission looked at some moment; what it saw decides.
  obtain ⟨q, -, hqk, hnot, hall⟩ := exists_last_not (P := fun l => HasLooked c a (upTo p ms l))
    (Nat.zero_le k) (fun ⟨_, _, _, _, hget⟩ => by cases hget) hgiven.hasLooked
  obtain ⟨mq, hmq⟩ := hmoment q hqk
  have hlooked := hall (q + 1) (Nat.lt_succ_self q) hqk
  rw [upTo_succ hmq] at hlooked
  obtain ⟨hlooks, hquiet, hsees⟩ :=
    looks_of_hasLooked (s := upTo p ms q) (sound_after p _) hnot hlooked
  have hlooksAt : At p ms q (Looks c a) := ⟨mq, hmq, hlooks⟩
  rcases Nat.lt_trichotomy q i with hqi | rfl | hiq
  · exact .looked hqi hlooksAt
  · -- The moment at which the ledger is made stale is no look.
    cases hmi.symm.trans hmq
    cases hexpires.symm.trans hlooks.turn?_eq
  · rcases hsees with hasks | hfresh
    · rw [← upTo_succ hmq] at hasks
      obtain ⟨n', j, t, l, hqj, hlk, hreads⟩ := exists_reads_of_refreshes (le_length hmk) hqk hquiet
        hall hasks hgiven.not_refreshes
      exact .fresh (hiq.trans_le hqj) hlk hreads
    · -- The ledger was not stale, so a count had been taken in.
      have hstale : ((upTo p ms (i + 1)).gateway.ledger a).refreshedAt = none := by
        rw [upTo_succ hmi, ledger_pass, hexpires, Gateway.afterTurn_some, if_pos rfl]
        rfl
      obtain ⟨l, hil, hlq, hwas, hnow⟩ := exists_last_not
        (P := fun l => ((upTo p ms l).gateway.ledger a).refreshedAt ≠ none) hiq
        (not_not.mpr hstale) hfresh
      obtain ⟨ml, hml⟩ := hmoment l (hlq.trans hqk)
      have hfreshed := hnow (l + 1) (Nat.lt_succ_self l) hlq
      rw [upTo_succ hml] at hfreshed
      obtain ⟨n', htakes⟩ := takesIn_of_refreshedAt (not_not.mp hwas) hfreshed
      obtain ⟨d, j, t, hreads⟩ := exists_reads ⟨ml, hml, htakes⟩
      rcases Nat.lt_or_ge i j with hij | hji
      · exact .fresh hij (hlq.trans hqk) hreads
      · exact .overtaken hji hil hlq hqk hreads hlooksAt

/-- A run in which a ledger is made stale between two submissions. -/
def staleRun (a : Address) : List Moment :=
  let request : Request := { account := a, payload := ⟨a, [], 0, 21000⟩ }
  [.start (.reconcile a), .reply 0 0 (.count 0), .reply 0 0 .done, .start (.expire a),
    .reply 1 0 .done, .start (.submit request), .reply 2 0 .done, .reply 2 0 (.count 3),
    .reply 2 0 .done, .reply 2 0 .done, .reply 2 0 .done].map fun e => ⟨⟨0⟩, .event e⟩

theorem three_given_after_rereading :
    At {} (staleRun ⟨0⟩) 4 (Expires ⟨0⟩) ∧ At {} (staleRun ⟨0⟩) 10 (Given 2 ⟨0⟩ 3) ∧
      Reread {} (staleRun ⟨0⟩) ⟨0⟩ 2 4 10 := by
  have hexpires : At {} (staleRun ⟨0⟩) 4 (Expires ⟨0⟩) := ⟨_, rfl, rfl⟩
  have hgiven : At {} (staleRun ⟨0⟩) 10 (Given 2 ⟨0⟩ 3) := ⟨_, rfl, _, 0, rfl, rfl, rfl, rfl⟩
  exact ⟨hexpires, hgiven, reread_before_given {} _ (by decide) hexpires hgiven⟩

/-- A run in which a submission is dropped and the ledger made stale while the chain has been asked
already; the old answer makes the ledger fresh again. -/
def overtakenRun (a : Address) : List Moment :=
  let request : Request := { account := a, payload := ⟨a, [], 0, 21000⟩ }
  [.start (.submit request), .reply 0 0 (.count 0), .reply 0 0 .done, .reply 0 0 .done,
    .reply 0 0 .done, .start (.reconcile a), .reply 1 0 (.count 0), .abandon 0, .reply 2 0 .done,
    .reply 2 0 .done, .reply 1 0 .done, .start (.submit request), .reply 3 0 .done,
    .reply 3 0 .done].map fun e => ⟨⟨0⟩, .event e⟩

/-- A run in which a submission has looked at the age of the ledger before another one is dropped
and the ledger made stale. -/
def lateRun (a : Address) : List Moment :=
  let request : Request := { account := a, payload := ⟨a, [], 0, 21000⟩ }
  [.start (.submit request), .reply 0 0 (.count 0), .reply 0 0 .done, .reply 0 0 .done,
    .reply 0 0 .done, .start (.submit request), .reply 1 0 .done, .abandon 0, .reply 2 0 .done,
    .reply 2 0 .done, .reply 1 0 .done].map fun e => ⟨⟨0⟩, .event e⟩

/-- In both runs a nonce is given to a submission after the ledger has been made stale, and no count
has been taken in that was asked for afterwards. -/
theorem given_without_rereading :
    (At {} (overtakenRun ⟨0⟩) 9 (Expires ⟨0⟩) ∧ At {} (overtakenRun ⟨0⟩) 13 (Given 3 ⟨0⟩ 0) ∧
      ¬ ∃ d n j t l, 9 < j ∧ l < 13 ∧ Reads {} (overtakenRun ⟨0⟩) ⟨0⟩ d n j t l) ∧
    At {} (lateRun ⟨0⟩) 9 (Expires ⟨0⟩) ∧ At {} (lateRun ⟨0⟩) 10 (Given 1 ⟨0⟩ 0) ∧
      ¬ ∃ d n j t l, 9 < j ∧ l < 10 ∧ Reads {} (lateRun ⟨0⟩) ⟨0⟩ d n j t l := by
  refine ⟨⟨⟨_, rfl, rfl⟩, ⟨_, rfl, _, 0, rfl, rfl, rfl, rfl⟩, ?_⟩, ⟨_, rfl, rfl⟩,
    ⟨_, rfl, _, 0, rfl, rfl, rfl, rfl⟩, ?_⟩
  · rintro ⟨d, n, j, t, l, hj, hl, hreads⟩
    have hjt := hreads.asked_lt
    have htl := hreads.answered_lt
    obtain rfl : l = 12 := by omega
    obtain ⟨m, hm, -, htakes⟩ := hreads.takes
    cases hm
    cases htakes
  · rintro ⟨d, n, j, t, l, hj, hl, hreads⟩
    have hjt := hreads.asked_lt
    have htl := hreads.answered_lt
    omega

end System

end TxGateway
