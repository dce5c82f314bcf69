import TxGateway.Proofs.Freshness
import TxGateway.Proofs.Signatures
import TxGateway.Proofs.SignedPrice
import TxGateway.Proofs.Stages

/-!
# What has led a submission to where it stands

An answer has brought a submission to every place but its first: the price of gas to the signer,
the signed bytes to the broadcast, the word of the node to the store. So a submission that succeeds
has been told a price, has asked for a signature of what was requested at that price, and has handed
the bytes that it was given to the node, and no others.
-/

namespace TxGateway

namespace Submit

variable {p : Policy} {now : Timestamp} {g : Gateway} {c : Submit} {reply : Reply}
  {request : Request} {submission : Submission} {record : Record}

/-- A submission goes to the signer when it is told a price. -/
theorem pricing_of_signing {n : Nat} {price : Price}
    (h : (c.resume p now g reply).2 = .waiting ⟨request, .signing n price⟩)
    (hnew : c ≠ ⟨request, .signing n price⟩) :
    ∃ told, c = ⟨request, .pricing n⟩ ∧ reply = .price told ∧
      p.gas.buffered? told = some price := by
  have hrequest := request_resume h
  obtain ⟨request', stage⟩ := c
  obtain rfl : request = request' := hrequest
  have hstage : stage ≠ .signing n price := fun heq => hnew (by rw [heq])
  obtain ⟨told, rfl, hprice⟩ := told_of_signing (Prod.ext rfl h) hstage
  refine ⟨told, ?_, rfl, hprice⟩
  cases stage with
  | pricing n' =>
      simp only [resume] at h
      split at h <;> cases h
      rfl
  | aging => cases h
  | refreshing r =>
      simp only [resume] at h
      split at h <;> cases h
  | obtaining o =>
      simp only [resume] at h
      split at h <;> cases h
  | signing n' price' =>
      cases h
      exact absurd rfl hstage
  | _ => cases h

/-- A submission goes to the store when the node has accepted its bytes. -/
theorem broadcasting_of_saving
    (h : (c.resume p now g reply).2 = .waiting ⟨request, .saving submission record⟩)
    (hnew : c ≠ ⟨request, .saving submission record⟩) :
    ∃ sent raw hash, c = ⟨request, .broadcasting sent raw⟩ ∧ reply = .accepted hash ∧
      submission = ⟨sent.id, sent.account, sent.nonce, hash⟩ := by
  simp only [resume, toObtain, fail, returnNonce, send, accept, hold] at h
  split at h
  all_goals first
    | cases h
    | (split at h <;> cases h)
    | skip
  · rename_i sent raw hash hstage _ _ _
    exact ⟨sent, raw, hash, by rw [← hstage], rfl, rfl⟩
  · -- Any other answer leaves the submission where it is.
    exact absurd (Progress.waiting.inj h) hnew

/-- A submission succeeds when its transaction has been stored, or the store has failed. -/
theorem saving_of_submitted
    (h : (c.resume p now g reply).2 = .ended (.returned (.ok submission))) :
    ∃ record, c.stage = .saving submission record := by
  simp only [resume, toObtain, fail, returnNonce, send, accept, hold] at h
  split at h
  all_goals first
    | cases h
    | (split at h <;> cases h)
  · exact ⟨_, by assumption⟩
  · exact ⟨_, by assumption⟩

theorem rank_start (request : Request) (g : Gateway) : (start request g).stage.rank = 0 := by
  unfold start
  split <;> rfl

/-- A submission that goes on with an answer goes on as one. -/
theorem waiting_of_resume {slot : Nat} {d : Call}
    (h : ((Call.submit c).resume p now g slot reply).2 = .waiting d) :
    d = .submit c ∨ ∃ c', d = .submit c' ∧ (c.resume p now g reply).2 = .waiting c' := by
  cases reply with
  | crashed crash =>
      simp only [Call.resume] at h
      split at h <;> cases h
      exact .inl rfl
  | _ =>
      obtain ⟨c', hnext, rfl⟩ := Progress.exists_of_map_eq_waiting h
      exact .inr ⟨c', rfl, hnext⟩

end Submit

namespace System

variable {p : Policy} {ms : List Moment} {c j k : Nat} {request : Request} {sent record : Record}
  {submission : Submission} {raw : Bytes}

/-- The chain tells a call the price of gas. -/
def TellsPrice (c : Nat) (told : Price) (s : System) (m : Moment) : Prop :=
  (0, .gasPrice) ∈ s.queries c ∧ ∃ slot, m.what = .event (.reply c slot (.price told))

/-- The signer gives a call bytes for what it has been asked to sign. -/
def GivesSignature (c : Nat) (a : Address) (payload : Payload) (nonce : Nat) (price : Price)
    (raw : Bytes) (s : System) (m : Moment) : Prop :=
  (0, .signature a payload nonce price) ∈ s.queries c ∧
    ∃ slot, m.what = .event (.reply c slot (.signed raw))

/-- A call hands bytes to the node. -/
def Broadcasts (c : Nat) (raw : Bytes) (s : System) : Prop := (0, .broadcast raw) ∈ s.queries c

/-- A submission returns successfully. -/
def Succeeds (p : Policy) (c : Nat) (submission : Submission) (s : System) (m : Moment) : Prop :=
  ∃ slot r, m.what = .event (.reply c slot r) ∧
    (s.reply p m.now c slot r).2.ending = some (.ofValue (.submitted submission))

/-- Before a moment an answer has brought a submission to a place. -/
def Brought (p : Policy) (ms : List Moment) (c : Nat) (d : Submit) (k : Nat) : Prop :=
  ∃ j < k, ∃ m slot r before, ms[j]? = some m ∧ m.what = .event (.reply c slot r) ∧
    (upTo p ms j).calls.get? c = some (.submit before) ∧ before ≠ d ∧
    (before.resume p m.now (upTo p ms j).gateway r).2 = .waiting d

theorem Brought.mono {d : Submit} (h : Brought p ms c d j) (hjk : j ≤ k) : Brought p ms c d k := by
  obtain ⟨i, hi, hrest⟩ := h
  exact ⟨i, Nat.lt_of_lt_of_le hi hjk, hrest⟩

/-- An answer has brought a submission to every place but its first. -/
theorem brought_of_get? {d : Submit} (hget : (upTo p ms k).calls.get? c = some (.submit d))
    (hrank : d.stage.rank ≠ 0) (hk : k ≤ ms.length) : Brought p ms c d k := by
  induction k with
  | zero => cases hget
  | succ k ih =>
      have hm : ms[k]? = some ms[k] := List.getElem?_eq_getElem hk
      have hbefore (hsame : (upTo p ms k).calls.get? c = some (.submit d)) :
          Brought p ms c d (k + 1) := (ih hsame (Nat.le_of_succ_le hk)).mono (Nat.le_succ k)
      rw [upTo_succ hm] at hget
      cases comes_of_get?_pass hget with
      | stays hsame => exact hbefore hsame
      | @resumes slot r before hwhat hwas hresume _ =>
          obtain ⟨before, rfl, heq | hnext⟩ := Call.submit_of_resume hresume
          · exact hbefore (heq ▸ hwas)
          · by_cases heq : before = d
            · exact hbefore (heq ▸ hwas)
            · exact ⟨k, Nat.lt_succ_self k, _, slot, r, before, hm, hwhat, hwas, heq, hnext⟩
      | starts hwhat heq hstart _ =>
          obtain ⟨request, -, rfl⟩ := Call.submit_of_start hstart
          exact absurd (Submit.rank_start _ _) hrank
      | chore heq _ => cases heq

/-- A submission that waits for a signature has been told the price that it is to be signed at. -/
theorem told_of_get? {n : Nat} {price : Price}
    (hget : (upTo p ms k).calls.get? c = some (.submit ⟨request, .signing n price⟩))
    (hk : k ≤ ms.length) :
    ∃ told, (∃ j, At p ms j (TellsPrice c told)) ∧ p.gas.buffered? told = some price := by
  obtain ⟨j, -, m, slot, r, before, hm, hwhat, hwas, hne, hnext⟩ :=
    brought_of_get? hget (by simp [Submit.Stage.rank]) hk
  obtain ⟨told, rfl, rfl, hprice⟩ := Submit.pricing_of_signing hnext hne
  refine ⟨told, ⟨j, m, hm, ?_, slot, hwhat⟩, hprice⟩
  simp [queries, hwas, Call.queries, Submit.query]

/-- A submission that waits for its broadcast has been given the bytes, for a nonce and a price. -/
theorem signed_of_get? (hget : (upTo p ms k).calls.get? c =
      some (.submit ⟨request, .broadcasting sent raw⟩)) (hk : k ≤ ms.length) :
    sent.account = request.account ∧ ∃ price told, (∃ j, At p ms j (TellsPrice c told)) ∧
      p.gas.buffered? told = some price ∧ ∃ j, At p ms j
        (GivesSignature c request.account request.payload sent.nonce price raw) := by
  obtain ⟨j, hj, m, slot, r, before, hm, hwhat, hwas, hne, hnext⟩ :=
    brought_of_get? hget (by simp [Submit.Stage.rank]) hk
  rcases Submit.broadcasting_of_resume (Prod.ext rfl hnext) with
    heq | ⟨n, price, rfl, rfl, rfl⟩
  · exact absurd heq hne
  · obtain ⟨told, htold, hprice⟩ := told_of_get? hwas (Nat.le_of_lt (Nat.lt_of_lt_of_le hj hk))
    refine ⟨rfl, price, told, htold, hprice, j, m, hm, ?_, slot, hwhat⟩
    simp [queries, hwas, Call.queries, Submit.query, Record.fresh]

/-- A submission that waits for the store has handed the bytes it was given to the node, and the
node has accepted them. -/
theorem accepted_of_get? (hget : (upTo p ms k).calls.get? c =
      some (.submit ⟨request, .saving submission record⟩)) (hk : k ≤ ms.length) :
    ∃ raw price told j, submission.account = request.account ∧
      (∃ j, At p ms j (TellsPrice c told)) ∧ p.gas.buffered? told = some price ∧
      (∃ j, At p ms j
        (GivesSignature c request.account request.payload submission.nonce price raw)) ∧
      Broadcasts c raw (upTo p ms j) ∧ At p ms j (Accepts c raw submission.hash) := by
  obtain ⟨j, hj, m, slot, r, before, hm, hwhat, hwas, hne, hnext⟩ :=
    brought_of_get? hget (by simp [Submit.Stage.rank]) hk
  obtain ⟨sent, raw, hash, rfl, rfl, rfl⟩ := Submit.broadcasting_of_saving hnext hne
  obtain ⟨haccount, price, told, htold, hprice, hgives⟩ :=
    signed_of_get? hwas (Nat.le_of_lt (Nat.lt_of_lt_of_le hj hk))
  refine ⟨raw, price, told, j, haccount, htold, hprice, hgives, ?_, m, hm, request, sent, slot,
    hwas, hwhat⟩
  simp [Broadcasts, queries, hwas, Call.queries, Submit.query]

theorem Succeeds.saving {s : System} {m : Moment} {d : Submit} (h : Succeeds p c submission s m)
    (hget : s.calls.get? c = some (.submit d)) : ∃ record, d.stage = .saving submission record := by
  obtain ⟨slot, r, -, hending⟩ := h
  have hended : ((Call.submit d).resume p m.now s.gateway slot r).2 =
      .ended (.ofValue (.submitted submission)) := by
    simp only [reply, hget] at hending
    split at hending
    · cases hending
    · cases hending
    · rename_i hresume
      rw [hresume, Option.some.inj hending]
  have hproceed (hproceed : ((Call.submit d).proceed p m.now s.gateway slot r).2 =
      .ended (.ofValue (.submitted submission))) :
      ∃ record, d.stage = .saving submission record := by
    simp only [Call.proceed] at hproceed
    cases hresume : (d.resume p m.now s.gateway r).2 with
    | waiting d' =>
        rw [hresume] at hproceed
        cases hproceed
    | ended ending =>
        rw [hresume] at hproceed
        obtain ⟨⟨e⟩ | ⟨submission'⟩⟩ | crash := ending
        · cases hproceed
        · cases hproceed
          exact Submit.saving_of_submitted hresume
        · cases hproceed
  cases r with
  | crashed crash =>
      simp only [Call.resume] at hended
      split at hended <;> cases hended
  | _ => exact hproceed hended

section

variable {i l : Nat} {t : Timestamp} {raw' : Bytes}

/-- A submission that is set going is a call with a number of its own. -/
theorem get?_started (hstart : ms[i]? = some ⟨t, .event (.start (.submit request))⟩) :
    (upTo p ms i).opened < (upTo p ms (i + 1)).opened ∧
      (upTo p ms (i + 1)).calls.get? (upTo p ms i).opened =
        some (.submit (Submit.start request (upTo p ms i).gateway)) := by
  rw [upTo_succ hstart]
  simp [pass, step, start, Call.start, enroll]

theorem opened_le_upTo (hjk : j ≤ k) (hk : k ≤ ms.length) :
    (upTo p ms j).opened ≤ (upTo p ms k).opened :=
  upTo_induction (P := fun _ s => (upTo p ms j).opened ≤ s.opened) hjk hk le_rfl
    fun _ m _ _ _ hle => hle.trans (opened_le_pass _ p m)

/-- The call with this number is at all times a submission of this request, if there is one. -/
theorem request_of_get? (hstart : ms[i]? = some ⟨t, .event (.start (.submit request))⟩)
    (hj : j ≤ ms.length) {d : Call}
    (hget : (upTo p ms j).calls.get? (upTo p ms i).opened = some d) :
    ∃ stage, d = .submit ⟨request, stage⟩ := by
  obtain ⟨hopened, hfirst⟩ := get?_started (p := p) hstart
  have hij : i < j := by
    by_contra hle
    have hopened := opened_le_upTo (p := p) (Nat.le_of_not_lt hle) (le_length hstart)
    exact absurd ((sound_after p _).lt_opened _ _ hget) (Nat.not_lt.mpr hopened)
  have hall : (upTo p ms i).opened < (upTo p ms j).opened ∧ ∀ d,
      (upTo p ms j).calls.get? (upTo p ms i).opened = some d →
        ∃ stage, d = .submit ⟨request, stage⟩ := by
    apply upTo_induction (P := fun _ s => (upTo p ms i).opened < s.opened ∧ ∀ d,
      s.calls.get? (upTo p ms i).opened = some d → ∃ stage, d = .submit ⟨request, stage⟩) hij hj
    · refine ⟨hopened, fun d hd => ?_⟩
      obtain rfl := Option.some.inj (hfirst.symm.trans hd)
      unfold Submit.start
      split <;> exact ⟨_, rfl⟩
    · rintro k m - - - ⟨hlt, hwas⟩
      refine ⟨hlt.trans_le (opened_le_pass _ p m), fun d hd => ?_⟩
      cases comes_of_get?_pass hd with
      | stays hsame => exact hwas d hsame
      | @resumes slot r before _ hbefore hresume _ =>
          obtain ⟨stage, rfl⟩ := hwas before hbefore
          rcases Submit.waiting_of_resume hresume with rfl | ⟨⟨request', stage'⟩, rfl, hnext⟩
          · exact ⟨stage, rfl⟩
          · obtain rfl : request' = request := Submit.request_resume hnext
            exact ⟨stage', rfl⟩
      | starts _ heq _ _ => exact absurd heq (Nat.ne_of_lt hlt)
      | chore _ hle => exact absurd hlt (Nat.not_lt.mpr hle)
  exact hall.2 d hget

/-- A submission that returns successfully has waited for the store. -/
theorem Succeeds.get? {m : Moment}
    (hstart : ms[i]? = some ⟨t, .event (.start (.submit request))⟩)
    (h : Succeeds p (upTo p ms i).opened submission (upTo p ms k) m) (hk : k ≤ ms.length) :
    ∃ record, (upTo p ms k).calls.get? (upTo p ms i).opened =
      some (.submit ⟨request, .saving submission record⟩) := by
  cases hget : (upTo p ms k).calls.get? (upTo p ms i).opened with
  | none =>
      obtain ⟨slot, r, -, hending⟩ := h
      simp [reply, hget] at hending
  | some d =>
      obtain ⟨stage, rfl⟩ := request_of_get? hstart hk hget
      obtain ⟨record, rfl⟩ := h.saving hget
      exact ⟨record, rfl⟩

/-- A submission that hands bytes to the node waits for its broadcast. -/
theorem Broadcasts.get? (hstart : ms[i]? = some ⟨t, .event (.start (.submit request))⟩)
    (h : Broadcasts (upTo p ms i).opened raw (upTo p ms j)) (hj : j ≤ ms.length) :
    ∃ sent, (upTo p ms j).calls.get? (upTo p ms i).opened =
      some (.submit ⟨request, .broadcasting sent raw⟩) := by
  cases hget : (upTo p ms j).calls.get? (upTo p ms i).opened with
  | none => simp [Broadcasts, queries, hget] at h
  | some d =>
      obtain ⟨stage, rfl⟩ := request_of_get? hstart hj hget
      simp only [Broadcasts, queries, hget, Call.queries, List.mem_singleton, Prod.mk.injEq,
        true_and] at h
      cases stage with
      | broadcasting sent raw' =>
          cases h
          exact ⟨sent, rfl⟩
      | refreshing r => cases r <;> cases h
      | obtaining o =>
          cases o with
          | turn => cases h
          | seeding r => cases r <;> cases h
      | _ => cases h

/-- A submission on its way stays there with the same bytes, or it is past that. -/
theorem broadcasting_or_past {d : Submit} (hjl : j ≤ l) (hl : l ≤ ms.length)
    (hwas : (upTo p ms j).calls.get? c = some (.submit ⟨request, .broadcasting sent raw⟩))
    (hget : (upTo p ms l).calls.get? c = some (.submit d)) :
    d = ⟨request, .broadcasting sent raw⟩ ∨ 3 ≤ d.stage.rank := by
  have hopened : c < (upTo p ms j).opened := (sound_after p _).lt_opened c _ hwas
  have hall : c < (upTo p ms l).opened ∧ ∀ d, (upTo p ms l).calls.get? c = some (.submit d) →
      d = ⟨request, .broadcasting sent raw⟩ ∨ 3 ≤ d.stage.rank := by
    apply upTo_induction (P := fun _ s => c < s.opened ∧ ∀ d, s.calls.get? c = some (.submit d) →
      d = ⟨request, .broadcasting sent raw⟩ ∨ 3 ≤ d.stage.rank) hjl hl
    · refine ⟨hopened, fun d hd => .inl ?_⟩
      cases hwas.symm.trans hd
      rfl
    · rintro k m - - - ⟨hlt, hbefore⟩
      refine ⟨hlt.trans_le (opened_le_pass _ p m), fun d hd => ?_⟩
      obtain ⟨before, hget, rfl | ⟨r, hnext⟩⟩ := submit_of_pass hlt hd
      · exact hbefore d hget
      · have hrank := Submit.rank_resume hnext
        rcases hbefore before hget with rfl | hpast
        · obtain ⟨request', stage⟩ := d
          cases stage with
          | broadcasting sent' raw' =>
              rcases Submit.broadcasting_of_resume (Prod.ext rfl hnext) with
                heq | ⟨n, price, heq, -⟩
              · exact .inl heq.symm
              · cases heq
          | returning n e => exact .inr (Nat.le_refl 3)
          | holding r e => exact .inr (Nat.le_refl 3)
          | saving submission r => exact .inr (Nat.le_refl 3)
          | _ => simp [Submit.Stage.rank] at hrank
        · exact .inr (hpast.trans hrank)
  exact hall.2 d hget

/-- A submission hands the same bytes to the node at all times. -/
theorem Broadcasts.eq (hstart : ms[i]? = some ⟨t, .event (.start (.submit request))⟩)
    (h : Broadcasts (upTo p ms i).opened raw (upTo p ms j))
    (h' : Broadcasts (upTo p ms i).opened raw' (upTo p ms l)) (hj : j ≤ ms.length)
    (hl : l ≤ ms.length) : raw = raw' := by
  obtain ⟨sent, hget⟩ := h.get? hstart hj
  obtain ⟨sent', hget'⟩ := h'.get? hstart hl
  rcases Nat.le_total j l with hjl | hlj
  · rcases broadcasting_or_past hjl hl hget hget' with heq | hpast
    · cases heq
      rfl
    · simp [Submit.Stage.rank] at hpast
  · rcases broadcasting_or_past hlj hj hget' hget with heq | hpast
    · cases heq
      rfl
    · simp [Submit.Stage.rank] at hpast

end

end System

end TxGateway
