import TxGateway.Proofs.Seeing
import TxGateway.Proofs.Tracking

/-!
# Whatever is watched has been signed once

A transaction on its way bears the hash of bytes that the signer has given, and a serial number that
was issued at that moment; so does every watched transaction of a tidy run, if the node reports the
hash of the bytes. If, moreover, the signer never gives the same bytes twice, and no two of them
have the same hash, then a transaction that is to be watched never has a hash that is known already.
-/

namespace TxGateway

/-- A submission that waits for its broadcast has waited for it before, or it has just got its
signature. -/
theorem Submit.broadcasting_of_resume {c : Submit} {p : Policy} {now : Timestamp} {g g' : Gateway}
    {reply : Reply} {request : Request} {sent : Record} {raw : Bytes}
    (h : c.resume p now g reply = (g', .waiting ⟨request, .broadcasting sent raw⟩)) :
    c = ⟨request, .broadcasting sent raw⟩ ∨
      ∃ n price, c = ⟨request, .signing n price⟩ ∧ reply = .signed raw ∧
        sent = .fresh now ⟨⟨g.issued⟩, request.account, n, TxHash.ofRaw raw⟩ := by
  obtain ⟨request, stage⟩ := c
  cases stage with
  | aging =>
      cases reply with
      | done =>
          simp only [resume] at h
          split at h <;> cases h
      | _ => cases h
  | refreshing r =>
      simp only [resume] at h
      split at h <;> cases h
  | noting => cases reply <;> cases h
  | obtaining o =>
      simp only [resume] at h
      split at h <;> cases h
  | pricing n =>
      cases reply with
      | price price =>
          simp only [resume] at h
          split at h <;> cases h
      | _ => cases h
  | signing n price =>
      cases reply with
      | signed raw =>
          cases h
          exact .inr ⟨n, price, rfl, rfl, rfl⟩
      | _ => cases h
  | broadcasting sent raw =>
      cases reply with
      | accepted hash =>
          simp only [resume, accept] at h
          split at h <;> cases h
      | unreachable detail =>
          simp only [resume, hold] at h
          split at h <;> cases h
      | silence =>
          simp only [resume, hold] at h
          split at h <;> cases h
      | rejected reason => cases h
      | _ =>
          cases h
          exact .inl rfl
  | returning n e => cases reply <;> cases h
  | holding r e => cases reply <;> cases h
  | saving submission r => cases reply <;> cases h

namespace System

variable {p : Policy} {ms : List Moment} {c k : Nat} {sent r : Record}

/-- A submission gets the signed bytes of its transaction. -/
def Signs (c : Nat) (raw : Bytes) (s : System) (m : Moment) : Prop :=
  ∃ (request : Request) (n : Nat) (price : Price) (slot : Nat),
    s.calls.get? c = some (.submit ⟨request, .signing n price⟩) ∧
      m.what = .event (.reply c slot (.signed raw))

/-- The node accepts the bytes of a submission and reports a hash. -/
def Accepts (c : Nat) (raw : Bytes) (hash : TxHash) (s : System) (m : Moment) : Prop :=
  ∃ (request : Request) (sent : Record) (slot : Nat),
    s.calls.get? c = some (.submit ⟨request, .broadcasting sent raw⟩) ∧
      m.what = .event (.reply c slot (.accepted hash))

/-- The signer and the node of a run can be relied upon. -/
structure Reliable (p : Policy) (ms : List Moment) : Prop where
  /-- The signer never gives the same bytes twice. -/
  signs_once : ∀ i j c d raw, At p ms i (Signs c raw) → At p ms j (Signs d raw) → i = j
  /-- No two signed bytes have the same hash. -/
  no_collision : ∀ i j c d raw raw', At p ms i (Signs c raw) → At p ms j (Signs d raw') →
    TxHash.ofRaw raw = TxHash.ofRaw raw' → raw = raw'
  /-- The node reports the hash of the bytes. -/
  reports_hash : ∀ i c raw hash, At p ms i (Accepts c raw hash) → hash = TxHash.ofRaw raw

/-- A record tells of bytes that were signed in a run, and its serial number tells when. -/
def Signed (p : Policy) (ms : List Moment) (k : Nat) (r : Record) : Prop :=
  ∃ j < k, ∃ c raw, At p ms j (Signs c raw) ∧ r.hash = TxHash.ofRaw raw ∧
    r.id = ⟨(upTo p ms j).gateway.issued⟩

theorem Signed.mono (h : Signed p ms k r) {l : Nat} (hkl : k ≤ l) : Signed p ms l r := by
  obtain ⟨j, hj, hsigned⟩ := h
  exact ⟨j, hj.trans_le hkl, hsigned⟩

/-- A transaction on its way has been signed. -/
theorem OnItsWay.signed (h : OnItsWay c sent (upTo p ms k)) (hk : k ≤ ms.length) :
    Signed p ms k sent := by
  have hall : (upTo p ms k).CallsAre fun d => ∀ request sent raw,
      d = .submit ⟨request, .broadcasting sent raw⟩ → Signed p ms k sent := by
    apply upTo_induction (P := fun k s => s.CallsAre fun d => ∀ request sent raw,
      d = .submit ⟨request, .broadcasting sent raw⟩ → Signed p ms k sent) (Nat.zero_le k) hk
    · exact callsAre_zero
    · intro j m _ _ hm hs
      have hlater : (upTo p ms j).CallsAre fun d => ∀ request sent raw,
          d = .submit ⟨request, .broadcasting sent raw⟩ → Signed p ms (j + 1) sent :=
        ⟨fun i d hget request sent raw hd =>
          (hs.each i d hget request sent raw hd).mono (Nat.le_succ j), hs.lt_opened⟩
      apply hlater.pass p m fun _ _ _ _ hd => by cases hd
      · rintro t d - hd request sent raw rfl
        obtain ⟨request', -, hstart⟩ := Call.submit_of_start hd
        simp only [Submit.start] at hstart
        split at hstart <;> cases hstart
      · rintro i slot reply c d hwhat hget hc hd request sent raw rfl
        obtain ⟨before, rfl, rfl | hnext⟩ := Call.submit_of_resume hd
        · exact hc request sent raw rfl
        · rcases Submit.broadcasting_of_resume (Prod.ext rfl hnext) with
            rfl | ⟨n, price, rfl, rfl, rfl⟩
          · exact hc request sent raw rfl
          · exact ⟨j, Nat.lt_succ_self j, i, raw, ⟨m, hm, request, n, price, slot, hget, hwhat⟩,
              rfl, rfl⟩
  obtain ⟨request, raw, hget⟩ := h
  exact hall.each c _ hget request sent raw rfl

/-- A watched record has been put on the watchlist by a submission, under its hash. -/
theorem tracked_of_lookup? (hms : IsTidyRun p ms) (hk : k ≤ ms.length) {h : TxHash}
    (hr : (upTo p ms k).gateway.watchlist.lookup? h = some r) :
    r.hash = h ∧ ∃ j < k, ∃ c r₀, At p ms j (Tracks p c r₀) ∧ r₀.submission = r.submission := by
  revert h r
  apply upTo_induction (P := fun k s => ∀ r h, s.gateway.watchlist.lookup? h = some r →
    r.hash = h ∧ ∃ j < k, ∃ c r₀, At p ms j (Tracks p c r₀) ∧ r₀.submission = r.submission)
    (Nat.zero_le k) hk
  · intro r h hr
    cases hr
  · intro j m _ _ hm hs r h hr
    have hj : j ≤ ms.length := le_length hm
    -- What was watched before was put on the watchlist before.
    have hwas : ∀ r₁, (upTo p ms j).gateway.watchlist.lookup? h = some r₁ →
        r₁.submission = r.submission → r.hash = h ∧ ∃ l < j + 1, ∃ c r₀,
          At p ms l (Tracks p c r₀) ∧ r₀.submission = r.submission := by
      intro r₁ hr₁ hsame
      obtain ⟨hhash, l, hl, c, r₀, htracks, hsub⟩ := hs r₁ h hr₁
      refine ⟨?_, l, Nat.lt_succ_of_lt hl, c, r₀, htracks, hsub.trans hsame⟩
      rw [← hhash]
      exact (congrArg Submission.hash hsame).symm
    cases seen_pass (p := p) (m := m) (hms.tidy hj) with
    | same watchlist_eq =>
        rw [watchlist_eq] at hr
        exact hwas r hr rfl
    | @conclude c sent r₂ way concludes =>
        rcases way.enters (p := p) concludes (hms.tidy hj).orderly with
          ⟨htracks, hlookup⟩ | ⟨hsame, -⟩
        · rw [hlookup] at hr
          split at hr
          · rename_i hhash
            cases hr
            exact ⟨hhash.symm, j, Nat.lt_succ_self j, c, r, ⟨m, hm, htracks⟩, rfl⟩
          · exact hwas r hr rfl
        · rw [hsame] at hr
          exact hwas r hr rfl
    | @poll k now status o polled goesOn =>
        rw [Watchlist.lookup?_of_polled polled] at hr
        split at hr
        · rename_i hhk
          subst hhk
          cases hr
          obtain ⟨r₁, hr₁, -⟩ := Watchlist.polled?_eq_some polled
          exact hwas r₁ hr₁ (submission_of_polled polled hr₁).symm
        · exact hwas r hr rfl
    | purge purged =>
        rw [purged, Watchlist.lookup?_purge, Option.filter_eq_some_iff] at hr
        exact hwas r hr.1 rfl

/-- Under which hash a transaction on its way is to be watched: that of the bytes that were
signed. -/
theorem Reliable.signed_of_concludes (hrel : Reliable p ms) {m : Moment} (hm : ms[k]? = some m)
    (h : OnItsWay c sent (upTo p ms k)) (hr : m.concludes? c sent = some r) :
    r.id = sent.id ∧ Signed p ms k r := by
  have hk : k ≤ ms.length := le_length hm
  have hsent := h.signed hk
  rcases Moment.concludes?_eq_some hr with ⟨slot, hash, hwhat, rfl⟩ | rfl
  · obtain ⟨-, request, raw, hget, -, hhash⟩ := h.fresh (sound_after p _)
    have hreport := hrel.reports_hash k c raw hash ⟨m, hm, request, sent, slot, hget, hwhat⟩
    obtain ⟨j, hj, d, raw', hsigns, hhash', hid⟩ := hsent
    refine ⟨rfl, j, hj, d, raw', hsigns, ?_, hid⟩
    rw [← hhash', hhash]
    exact hreport
  · exact ⟨rfl, hsent⟩

/-- Two records of a run with the same hash have the same serial number. -/
theorem Reliable.id_eq (hrel : Reliable p ms) {l : Nat} {r' : Record} (h : Signed p ms k r)
    (h' : Signed p ms l r') (hhash : r.hash = r'.hash) : r.id = r'.id := by
  obtain ⟨i, -, c, raw, hsigns, hraw, hid⟩ := h
  obtain ⟨j, -, d, raw', hsigns', hraw', hid'⟩ := h'
  have hsame := hrel.no_collision i j c d raw raw' hsigns hsigns'
    (hraw.symm.trans (hhash.trans hraw'))
  subst hsame
  obtain rfl := hrel.signs_once i j c d raw hsigns hsigns'
  rw [hid, hid']

/-- The serial number of a transaction on its way is in no other hands. -/
theorem OnItsWay.id_ne {s : System} (h : OnItsWay c sent s) (hn : s.Numbered) {k : TxHash}
    (hr : s.gateway.watchlist.lookup? k = some r) : r.id ≠ sent.id := by
  intro hid
  obtain ⟨request, raw, hget⟩ := h
  have hheld : .serial sent.id ∈ s.held :=
    (Table.mem_tally Call.held).mpr ⟨c, _, hget, Multiset.mem_cons_self _ _⟩
  refine not_mem_of_count_add_le (hn.unique sent.id) hheld ?_
  rw [← hid]
  exact Watchlist.mem_held_of_lookup? hr (Multiset.mem_cons_self _ _)

/-- In a tidy run with a reliable signer and node the hash of a transaction that is to be watched is
not known. -/
theorem OnItsWay.unknown_of_reliable (hms : IsTidyRun p ms) (hrel : Reliable p ms) {m : Moment}
    (hm : ms[k]? = some m) (h : OnItsWay c sent (upTo p ms k))
    (hr : m.concludes? c sent = some r) :
    (upTo p ms k).gateway.watchlist.lookup? r.hash = none := by
  obtain ⟨hid, hsigned⟩ := hrel.signed_of_concludes hm h hr
  by_contra hknown
  obtain ⟨r', hr'⟩ := Option.ne_none_iff_exists'.mp hknown
  obtain ⟨hhash, j, -, d, r₀, ⟨m', hm', htracks⟩, hsub⟩ :=
    tracked_of_lookup? hms (le_length hm) hr'
  obtain ⟨sent', hway', hr₀⟩ := htracks.concluded
  obtain ⟨-, hsigned'⟩ := hrel.signed_of_concludes hm' hway' hr₀
  have hsame : r.hash = r₀.hash := hhash.symm.trans (congrArg Submission.hash hsub).symm
  have hids : r.id = r₀.id := hrel.id_eq hsigned hsigned' hsame
  apply h.id_ne (numbered_upTo hms.isOrderly k) hr'
  rw [← hid, hids]
  exact (congrArg Submission.id hsub).symm

/-- In a tidy run with a reliable signer and node a transaction that is to be watched is watched,
unless a live transaction has the same nonce; that one holds the nonce afterwards. -/
theorem OnItsWay.tracks_or_holds (hms : IsTidyRun p ms) (hrel : Reliable p ms) {m : Moment}
    (hm : ms[k]? = some m) (h : OnItsWay c sent (upTo p ms k))
    (hr : m.concludes? c sent = some r) :
    Tracks p c r (upTo p ms k) m ∨
      ∃ x, ((upTo p ms k).pass p m).Holds sent.account sent.nonce x := by
  have ho : (upTo p ms k).Orderly := orderly_upTo hms.isOrderly k
  have hi : (upTo p ms k).gateway.watchlist.Indexed := indexed_after p _ fun m hm =>
    hms.isOrderly m (List.mem_of_mem_take hm)
  have hnew := h.unknown_of_reliable hms hrel hm hr
  obtain ⟨-, haccount, hnonce, hopen⟩ := concluded_eq hr (h.fresh (sound_of_orderly ho)).1
  cases hfree : (upTo p ms k).gateway.watchlist.liveHolder? r.account r.nonce with
  | none => exact .inl ⟨⟨sent, h, hr⟩, hnew, h.lookup?_of_admits hr ⟨hnew, hfree⟩, hopen⟩
  | some key =>
      have hno : ¬ (upTo p ms k).gateway.watchlist.Admits r := by
        rintro ⟨-, hnone⟩
        rw [hfree] at hnone
        cases hnone
      obtain ⟨r', hr', hholds⟩ := holds_of_liveHolder? hi hfree
      rw [← h.watchlist_eq (p := p) hr hno] at hr'
      rw [haccount, hnonce] at hholds
      exact .inr ⟨.transaction key, r', hr', hholds⟩

end System

end TxGateway
