import TxGateway.Proofs.Amounts
import TxGateway.Proofs.ApprovalBodies
import TxGateway.Proofs.Sending
import TxGateway.Proofs.SignedTransaction
import Mathlib.Tactic.IntervalCases

/-!
# What an approval broadcasts is what it reports

A request for an approval that succeeds has handed one byte string to the node. Read back it is the
transaction that was asked for: the token is called with a selector, the spender and the amount that
the response names, under the nonce of the response, without a value, with the gas limit of the
request or the default one, at the price that was told with the percentage on top, on the chain that
is signed for. A wallet signs so.
-/

namespace TxGateway

/-- A price with a percentage added to each of its parts. -/
inductive Price.Raised (percent : Nat) : Price → Price → Prop
  /-- One price stays one price. -/
  | legacy {told fee : Word} (fee_eq : fee.toNat = GasPolicy.raised percent told.toNat) :
      Raised percent (.legacy told) (.legacy fee)
  /-- The ceiling stays the ceiling and the tip the tip. -/
  | dynamic {toldFee toldTip fee tip : Word}
      (fee_eq : fee.toNat = GasPolicy.raised percent toldFee.toNat)
      (tip_eq : tip.toNat = GasPolicy.raised percent toldTip.toNat) :
      Raised percent (.dynamic toldFee toldTip) (.dynamic fee tip)

theorem GasPolicy.raised_of_buffered? {g : GasPolicy} {told price : Price}
    (h : g.buffered? told = some price) : told.Raised g.bufferPercent price := by
  cases told with
  | legacy told =>
      simp only [buffered?, Option.map_eq_some_iff, raise?_eq_some_iff] at h
      obtain ⟨fee, ⟨-, hfee⟩, rfl⟩ := h
      exact .legacy hfee
  | dynamic toldFee toldTip =>
      simp only [buffered?, Option.bind_eq_bind, Option.bind_eq_some_iff, Option.pure_def,
        Option.some.injEq, raise?_eq_some_iff] at h
      obtain ⟨fee, ⟨-, hfee⟩, tip, ⟨-, htip⟩, rfl⟩ := h
      exact .dynamic hfee htip

namespace Http

/-- An approval that is not refused begins a submission for an amount: the one that its text is read
as, or any if it has none. -/
theorem approve_eq_pending {a : Approval} {task : Task} {form : Form} {bodyless : Bool}
    (h : approve a = .pending task form bodyless) :
    ∃ amount, task = .submit (a.request amount) ∧
      form = .approval a.token a.spender (amount.getD Word.greatest) ∧
      a.amount.elim (some Word.greatest) Amount.ofText? = some (amount.getD Word.greatest) := by
  unfold approve at h
  cases hamount : a.amount with
  | none =>
      rw [hamount] at h
      cases h
      exact ⟨none, rfl, rfl, rfl⟩
  | some text =>
      rw [hamount] at h
      cases hread : Amount.ofText? text with
      | none =>
          simp only [hread] at h
          cases h
      | some amount =>
          simp only [hread] at h
          cases h
          exact ⟨some amount, rfl, rfl, hread⟩

end Http

namespace System

open Http

variable {p : Policy} {ms : List Moment} {c chainId : Nat}

/-- Whoever signs for a call gives it the signed bytes of what it has asked for, on one chain. -/
def SignsFor (p : Policy) (ms : List Moment) (c chainId : Nat) : Prop :=
  ∀ j a payload nonce price raw, At p ms j (GivesSignature c a payload nonce price raw) →
    Envelope.IsSignedAs ⟨chainId, nonce, price, payload⟩ raw

/-- A wallet signs for a call. -/
def SignedBy (p : Policy) (ms : List Moment) (c : Nat) (w : Wallet) : Prop :=
  ∀ j a payload nonce price raw, At p ms j (GivesSignature c a payload nonce price raw) →
    w.sign a payload nonce price = .ofValue raw

theorem SignedBy.signsFor {w : Wallet} (h : SignedBy p ms c w) : SignsFor p ms c w.chainId :=
  fun j a payload nonce price raw hgives =>
    Wallet.isSignedAs_of_sign (h j a payload nonce price raw hgives)

/-- A transaction does for an approval what the response to it says. -/
structure Carries (p : Policy) (ms : List Moment) (c : Nat) (a : Approval)
    (submission : Submission) (response : Response) (e : Envelope) : Prop where
  /-- The nonce is that of the submission. -/
  nonce_eq : e.nonce = submission.nonce
  /-- The price is one that the chain has told, with the percentage on top, each part in its own
  place. -/
  price_raised : ∃ told, (∃ j, At p ms j (TellsPrice c told)) ∧
    told.Raised p.gas.bufferPercent e.price
  /-- The token is called. -/
  recipient_eq : e.payload.recipient = a.token
  /-- Nothing is sent along. -/
  value_eq : e.payload.value = 0
  /-- The gas limit is the one that was asked for, or the default one. -/
  gasLimit_eq : e.payload.gasLimit.toNat = a.gasLimit.getD Approval.defaultGasLimit
  /-- The call data has 68 bytes. -/
  length_data : e.payload.data.length = 68
  /-- They are the selector, the spender and an amount: the one that was asked for, or the greatest.
  The response tells the nonce, the token, the spender and the amount. -/
  data_eq : ∃ amount, Payload.approvalOf? e.payload.data = some (a.spender, amount) ∧
    a.amount.elim (some Word.greatest) Amount.ofText? = some amount ∧
    response = .ok (.object [("id", .string submission.id.text), ("account", a.account.toJson),
      ("nonce", .nat e.nonce), ("tx_hash", submission.hash.toJson), ("token", a.token.toJson),
      ("spender", a.spender.toJson), ("amount", amount.toJson)])

/-- The bytes that a call has handed to the node. -/
structure Sent (p : Policy) (ms : List Moment) (c : Nat) (hash : TxHash) (raw : Bytes) : Prop where
  /-- The call hands these bytes to the node, and never others. -/
  broadcasts_iff : ∀ raw', (∃ j ≤ ms.length, Broadcasts c raw' (upTo p ms j)) ↔ raw' = raw
  /-- The node accepts them, and reports the hash. -/
  accepted : ∃ j, At p ms j (Accepts c raw hash)

/-- The transaction of an approval. -/
theorem carries_request {a : Approval} {submission : Submission} {amount : Option Word}
    {told price : Price} {j : Nat} {q : Inquiry}
    (hq : q.AsksFor a) (haccount : submission.account = a.account)
    (hamount : a.amount.elim (some Word.greatest) Amount.ofText? = some (amount.getD Word.greatest))
    (htold : At p ms j (TellsPrice c told)) (hprice : p.gas.buffered? told = some price) :
    Carries p ms c a submission
      (Form.response (.approval a.token a.spender (amount.getD Word.greatest))
        (.ok (.submitted submission)))
      ⟨chainId, submission.nonce, price, (a.request amount).payload⟩ where
  nonce_eq := rfl
  price_raised := ⟨told, ⟨j, htold⟩, GasPolicy.raised_of_buffered? hprice⟩
  recipient_eq := rfl
  value_eq := rfl
  gasLimit_eq := by
    have hlt := gasLimit_lt_of_approval? hq.body_eq
    have hword : a.gasLimit.getD Approval.defaultGasLimit < 2 ^ 256 := Nat.lt_trans hlt (by decide)
    exact (BitVec.toNat_ofNat _ _).trans (Nat.mod_eq_of_lt hword)
  length_data := Payload.length_approvalData _ _
  data_eq := by
    refine ⟨amount.getD Word.greatest, Payload.approvalOf?_approvalData _ _, hamount, ?_⟩
    rw [← haccount]
    rfl

/-- What a request for an approval that succeeds has brought about. -/
theorem exists_carries {i k : Nat} {t : Timestamp} {q : Inquiry} {a : Approval} {task : Task}
    {form : Form} {bodyless : Bool} {submission : Submission} (hq : q.AsksFor a)
    (hpending : handle p t (upTo p ms i).gateway q = .pending task form bodyless)
    (hstart : ms[i]? = some ⟨t, .event (.start task)⟩) (hchain : chainId < Nat.pow 2 62)
    (hsigner : SignsFor p ms (upTo p ms i).opened chainId)
    (hsucceeds : At p ms k (Succeeds p (upTo p ms i).opened submission))
    (hnonce : submission.nonce < Nat.pow 2 64) :
    ∃ raw e s, Sent p ms (upTo p ms i).opened submission.hash raw ∧
      Envelope.ofSigned? raw = some (e, s) ∧ e.chainId = chainId ∧
      Carries p ms (upTo p ms i).opened a submission
        (form.response (.ok (.submitted submission))) e := by
  rw [hq.handle_eq] at hpending
  obtain ⟨amount, rfl, rfl, hamount⟩ := approve_eq_pending hpending
  obtain ⟨m, hm, hsucceeds⟩ := hsucceeds
  have hk := le_length hm
  obtain ⟨record, hget⟩ := hsucceeds.get? hstart hk
  obtain ⟨raw, price, told, j, haccount, ⟨l, htold⟩, hprice, ⟨l', hgives⟩, hbroadcasts, haccepts⟩ :=
    accepted_of_get? hget hk
  obtain ⟨s, hread⟩ := (hsigner _ _ _ _ _ _ hgives).ofSigned?
    { chainId_lt := hchain
      nonce_lt := hnonce
      data_lt := by
        show (Payload.approvalData _ _).length < _
        rw [Payload.length_approvalData]
        decide }
  refine ⟨raw, _, s, ⟨fun raw' => ⟨?_, ?_⟩, j, haccepts⟩, hread, rfl,
    carries_request hq haccount hamount htold hprice⟩
  · rintro ⟨j', hj', hbroadcasts'⟩
    exact hbroadcasts'.eq hstart hbroadcasts hj' (le_length haccepts.choose_spec.1)
  · rintro rfl
    exact ⟨j, le_length haccepts.choose_spec.1, hbroadcasts⟩

/-- What the bytes that are signed tell, for approvals and for everything else. -/
structure ApprovalsReported (p : Policy) (ms : List Moment) : Prop where
  /-- A request for an approval that succeeds has handed one byte string to the node, and that is a
  transaction on the chain that is signed for, which does what the response says. -/
  approvals : ∀ (i k : Nat) (t : Timestamp) (q : Inquiry) (a : Approval) (task : Task) (form : Form)
    (bodyless : Bool) (chainId : Nat) (submission : Submission), q.AsksFor a →
      handle p t (upTo p ms i).gateway q = .pending task form bodyless →
      ms[i]? = some ⟨t, .event (.start task)⟩ → chainId < Nat.pow 2 62 →
      SignsFor p ms (upTo p ms i).opened chainId →
      At p ms k (Succeeds p (upTo p ms i).opened submission) → submission.nonce < Nat.pow 2 64 →
      ∃ raw e s, Sent p ms (upTo p ms i).opened submission.hash raw ∧
        Envelope.ofSigned? raw = some (e, s) ∧ e.chainId = chainId ∧
        Carries p ms (upTo p ms i).opened a submission
          (form.response (.ok (.submitted submission))) e
  /-- A wallet signs for its chain. -/
  wallet_signs : ∀ c w, SignedBy p ms c w → SignsFor p ms c w.chainId
  /-- Whatever a wallet signs is read back from the bytes. -/
  decodes : ∀ (w : Wallet) (a : Address) (payload : Payload) (nonce : Nat) (price : Price)
    (raw : Bytes), w.sign a payload nonce price = .ofValue raw →
      Envelope.Fits ⟨w.chainId, nonce, price, payload⟩ →
      ∃ s, Envelope.ofSigned? raw = some (⟨w.chainId, nonce, price, payload⟩, s)
  /-- So two transactions never have the same signed bytes. -/
  distinct : ∀ (w w' : Wallet) (a a' : Address) (payload payload' : Payload) (nonce nonce' : Nat)
    (price price' : Price) (raw : Bytes), w.sign a payload nonce price = .ofValue raw →
      w'.sign a' payload' nonce' price' = .ofValue raw →
      Envelope.Fits ⟨w.chainId, nonce, price, payload⟩ →
      Envelope.Fits ⟨w'.chainId, nonce', price', payload'⟩ →
      w.chainId = w'.chainId ∧ nonce = nonce' ∧ price = price' ∧ payload = payload'
  /-- Nor are the same bytes signed for both of them. -/
  distinct_unsigned : ∀ e e' : Envelope, e.Fits → e'.Fits → e.unsigned = e'.unsigned → e = e'

theorem approvals_reported (p : Policy) (ms : List Moment) : ApprovalsReported p ms where
  approvals _ _ _ _ _ _ _ _ _ _ hq hpending hstart hchain hsigner hsucceeds hnonce :=
    exists_carries hq hpending hstart hchain hsigner hsucceeds hnonce
  wallet_signs _ _ := SignedBy.signsFor
  decodes _ _ _ _ _ _ hsign hfits := (Wallet.isSignedAs_of_sign hsign).ofSigned? hfits
  distinct _ _ _ _ _ _ _ _ _ _ _ hsign hsign' hfits hfits' := by
    have heq := (Wallet.isSignedAs_of_sign hsign).unique (Wallet.isSignedAs_of_sign hsign')
      hfits hfits'
    simpa only [Envelope.mk.injEq] using heq
  distinct_unsigned _ _ := Envelope.eq_of_unsigned_eq

/-- A request to let account 3 move 1000 pieces of token 2 for account 1. -/
def thousandInquiry : Inquiry where
  method := "POST"
  target := "/approve"
  contentType := some "application/json"
  body := "\x7b\"address\":\"0x0000000000000000000000000000000000000001\"," ++
    "\"token\":\"0x0000000000000000000000000000000000000002\"," ++
    "\"spender\":\"0x0000000000000000000000000000000000000003\",\"amount\":\"1000\"\x7d"

/-- What it asks for. -/
def thousandApproval : Approval := ⟨⟨1⟩, ⟨2⟩, ⟨3⟩, some "1000", none, none⟩

theorem thousandInquiry_asksFor : thousandInquiry.AsksFor thousandApproval where
  resource_eq := by decide +kernel
  method_eq := rfl
  body_eq := by
    have hread : (approval? thousandInquiry).toOption = some thousandApproval := by decide +kernel
    cases hbody : approval? thousandInquiry with
    | error r =>
        rw [hbody] at hread
        cases hread
    | ok a =>
        rw [hbody] at hread
        exact congrArg _ (Option.some.inj hread)

/-- The transaction that it leads to under nonce 5 on chain 1. -/
def thousandEnvelope : Envelope :=
  ⟨1, 5, .dynamic 110 22, .approval ⟨2⟩ ⟨3⟩ (some 1000) 100000⟩

/-- A run in which the request is carried out with these signed bytes, and the node reports this
hash. -/
def thousandRun (raw : Bytes) (hash : TxHash) : List Moment :=
  [.start (.submit (thousandApproval.request (some 1000))), .reply 0 0 (.count 5),
    .reply 0 0 .done, .reply 0 0 .done, .reply 0 0 .done,
    .reply 0 0 (.price (.dynamic 100 20)), .reply 0 0 (.signed raw),
    .reply 0 0 (.accepted hash), .reply 0 0 .done].map fun e => ⟨⟨0⟩, .event e⟩

theorem thousandRun_signsFor {s : Signature} (hs : s.Fits) (hash : TxHash) :
    SignsFor {} (thousandRun (thousandEnvelope.signed s) hash) 0 1 := by
  rintro j a payload nonce price raw ⟨m, hm, hquery, slot, hwhat⟩
  have hj : j < 9 := (List.getElem?_eq_some_iff.mp hm).1
  interval_cases j <;> cases hm <;> cases hwhat
  have hqueries : (upTo {} (thousandRun (thousandEnvelope.signed s) hash) 6).queries 0 =
      [(0, .signature ⟨1⟩ thousandEnvelope.payload 5 (.dynamic 110 22))] := rfl
  simp only [hqueries, List.mem_singleton, Prod.mk.injEq, Query.signature.injEq] at hquery
  obtain ⟨-, -, rfl, rfl, rfl⟩ := hquery
  exact ⟨s, hs, rfl⟩

/-- With any signature of two words the bytes of this run carry the approval; here is one. -/
theorem thousand_reported :
    let raw := thousandEnvelope.signed ⟨1, 1, false⟩
    let run := thousandRun raw ⟨7⟩
    thousandInquiry.AsksFor thousandApproval ∧ Broadcasts 0 raw (upTo {} run 7) ∧
      Sent {} run 0 ⟨7⟩ raw ∧ ∃ e s, Envelope.ofSigned? raw = some (e, s) ∧ e.chainId = 1 ∧
        Carries {} run 0 thousandApproval ⟨⟨0⟩, ⟨1⟩, 5, ⟨7⟩⟩
          (Form.response (.approval ⟨2⟩ ⟨3⟩ 1000) (.ok (.submitted ⟨⟨0⟩, ⟨1⟩, 5, ⟨7⟩⟩))) e := by
  intro raw run
  have hfits : (⟨1, 1, false⟩ : Signature).Fits := ⟨by decide, by decide⟩
  have hpending : handle {} ⟨0⟩ (upTo {} run 0).gateway thousandInquiry =
      .pending (.submit (thousandApproval.request (some 1000))) (.approval ⟨2⟩ ⟨3⟩ 1000) false := by
    rw [thousandInquiry_asksFor.handle_eq]
    rfl
  have hsucceeds : At {} run 8 (Succeeds {} 0 ⟨⟨0⟩, ⟨1⟩, 5, ⟨7⟩⟩) := ⟨_, rfl, 0, .done, rfl, rfl⟩
  have hbroadcasts : Broadcasts 0 raw (upTo {} run 7) := List.mem_singleton_self _
  obtain ⟨raw', e, s, hsent, hread, hchain, hcarries⟩ :=
    (approvals_reported {} run).approvals 0 8 ⟨0⟩ thousandInquiry thousandApproval _ _ false 1 _
      thousandInquiry_asksFor hpending rfl (by decide) (thousandRun_signsFor hfits ⟨7⟩) hsucceeds
      (by decide)
  obtain rfl : raw = raw' := (hsent.broadcasts_iff raw).mp ⟨7, by decide, hbroadcasts⟩
  exact ⟨thousandInquiry_asksFor, hbroadcasts, hsent, e, s, hread, hchain, hcarries⟩

end System

end TxGateway
