import TxGateway.Proofs.HandOut
import TxGateway.Proofs.Reserving
import Mathlib.Tactic.IntervalCases

/-!
# How long a recovered reservation lasts

A reserved nonce is one entry of a ledger, however many restored records share it, and each of them
that is found dropped gives it back. So the nonce of a restored record that is still pending can be
handed out again, but only after another restored record of the same account and nonce has been
found dropped; a store holds two such records if an outcome could not be stored.
-/

namespace TxGateway

section

variable {g g' : Gateway} {t : Option (Address × Turn)} {mine mine' : Multiset Token} {a : Address}
  {n : Nat}

/-- A nonce is only given back by who has it in hand. -/
theorem Move.turn_ne_giveBack (h : Move g g' t mine mine') (hnot : .nonce a n ∉ mine) :
    t ≠ some (a, .giveBack n) := by
  cases h with
  | keep steady turn le => exact turn a n
  | grant steady turn got => simp [turn]
  | back steady turn =>
      rw [turn]
      rintro heq
      cases heq
      exact hnot (Multiset.mem_cons_self _ _)
  | issue watchlist_eq issued_eq turn => simp [turn]
  | enter entered issued_eq turn => simp [turn]
  | poll polled issued_eq turn le => simp [turn]
  | purge purged issued_eq turn => simp [turn]

/-- A nonce gets into hand when it is handed out, or when a poll finds its transaction dropped. -/
theorem Move.granted_or_dropped (h : Move g g' t mine mine') (hnot : .nonce a n ∉ mine)
    (hin : .nonce a n ∈ mine') :
    (∃ choice, t = some (a, .obtain choice) ∧ (g.obtain a choice).2 = some (.ok n)) ∨
      ∃ key now status o, g.watchlist.polled? key now status = some (g'.watchlist, o) ∧
        .nonce a n ∈ o.held := by
  cases h with
  | keep steady turn le => exact absurd (Multiset.mem_of_le le hin) hnot
  | grant steady turn got =>
      rcases Multiset.mem_cons.mp hin with heq | hwas
      · cases heq
        exact .inl ⟨_, turn, got⟩
      · exact absurd hwas hnot
  | back steady turn => exact absurd (Multiset.mem_cons_of_mem hin) hnot
  | issue watchlist_eq issued_eq turn =>
      rcases Multiset.mem_cons.mp hin with heq | hwas
      · cases heq
      · exact absurd hwas hnot
  | enter entered issued_eq turn => exact absurd (Multiset.mem_add.mpr (.inr hin)) hnot
  | poll polled issued_eq turn le =>
      rcases Multiset.mem_add.mp (Multiset.mem_of_le le hin) with hnew | hwas
      · exact .inr ⟨_, _, _, _, polled, hnew⟩
      · exact absurd hwas hnot
  | purge purged issued_eq turn => exact absurd hin hnot

end

namespace System

variable {p : Policy} {ms : List Moment} {s s₀ : System} {m : Moment} {a : Address} {b e k n : Nat}
  {r r' : Record}

/-- A nonce that has been taken back can be handed out to whoever names it. -/
theorem TakesBack.obtain (h : TakesBack p a n s m) (hk : (s.gateway.ledger a).Kept) :
    ((s.pass p m).gateway.obtain a (.named n)).2 = some (.ok n) := by
  obtain ⟨hturn, hin, hout⟩ := h
  have hin' : n ∈ (s.gateway.ledger a).pending := hin
  have hseeded : (s.gateway.ledger a).seeded = true := by
    by_contra hno
    rw [hk.untouched (Bool.eq_false_iff.mpr hno)] at hin'
    cases hin'
  have hledger := ledger_pass p s m a
  rw [hturn, Gateway.afterTurn_some, if_pos rfl] at hledger
  have hseededAfter : ((s.pass p m).gateway.ledger a).seeded = true := by
    rw [hledger]
    simp [Turn.apply, Ledger.giveBack?, hin', hseeded]
  have hfloor : ((s.pass p m).gateway.ledger a).book.floor ≤ n := by
    rw [hledger]
    simpa [Turn.apply, Ledger.giveBack?, hin'] using hk.floor_le n hin'
  have hfree : n ∉ ((s.pass p m).gateway.ledger a).book.held := by
    rw [Ledger.mem_book]
    exact hout
  have hclaim := ((s.pass p m).gateway.ledger a).claim_eq n
  rw [if_pos ⟨hfloor, hfree⟩] at hclaim
  simp [Gateway.obtain, hseededAfter, hclaim]

/-- A nonce is reserved, and in no call's hands; whatever live record has it has been restored. -/
structure Reserved (s₀ : System) (a : Address) (n : Nat) (s : System) : Prop where
  /-- The calls are orderly. -/
  orderly : s.Orderly
  /-- Records stand under their own hashes. -/
  keyed : s.gateway.watchlist.Keyed
  /-- The nonce cannot be handed out. -/
  secures : (s.book a).Secures n
  /-- No call has it in hand. -/
  not_held : .nonce a n ∉ s.held
  /-- The live records that have it were live when the recovery had returned. -/
  restored : ∀ h r, s.gateway.watchlist.lookup? h = some r → r.status = .pending →
    r.account = a → r.nonce = n → Live r s₀

/-- What has been restored is reserved when the recovery has returned. -/
theorem Recovered.reserved (h : Recovered r.account s) (hlive : Live r s) :
    Reserved s r.account r.nonce s := by
  obtain ⟨r', hr', hsame, hpending⟩ := hlive
  have haccount : r'.account = r.account := congrArg Submission.account hsame
  have hnonce : r'.nonce = r.nonce := congrArg Submission.nonce hsame
  refine ⟨⟨fun i c hget => ?_, fun i c hget => ?_⟩, h.reserves.keyed, ?_, fun hin => ?_,
    fun k r₁ hr₁ hopen _ _ => ?_⟩
  · rw [h.quiet] at hget
    cases hget
  · rw [h.quiet] at hget
    cases hget
  · rw [← hnonce]
    rcases h.reserves.secures _ r' hr' (Record.isLive_of_pending hpending) haccount with
      hno | hsecured
    · cases hno
    · exact hsecured
  · obtain ⟨i, c, hget, -⟩ := (Table.mem_tally Call.held).mp hin
    rw [h.quiet] at hget
    cases hget
  · have hhash := h.reserves.keyed k r₁ hr₁
    exact ⟨r₁, hhash ▸ hr₁, rfl, hopen⟩

/-- A transaction that a poll has just made final is not live. -/
theorem Settles.not_live {status : Status} (h : Settles p r' status s m)
    (hhash : r'.hash = r.hash) : ¬ Live r (s.pass p m) := by
  obtain ⟨⟨r₁, hr₁, -, hpending⟩, hfinal, now, o, -, hpolled⟩ := h
  rintro ⟨r₂, hr₂, -, hopen⟩
  obtain ⟨r₃, hr₃, -, -, hrecord, -⟩ := Watchlist.polled?_eq_some hpolled
  cases hr₁.symm.trans hr₃
  rw [← hhash, Watchlist.lookup?_of_polled hpolled, if_pos rfl] at hr₂
  cases hr₂
  rw [hrecord] at hopen
  simp only [Record.isLive_of_pending hpending, if_true] at hopen
  rw [hopen] at hfinal
  cases hfinal

/-- While nobody has the nonce in hand, no other record with it becomes live. -/
theorem Reserved.restored_pass (h : Reserved s₀ a n s) (hm : m.IsOrderly) {key : TxHash}
    (hr : (s.pass p m).gateway.watchlist.lookup? key = some r) (hpending : r.status = .pending)
    (haccount : r.account = a) (hnonce : r.nonce = n) : Live r s₀ := by
  have hmove := move_pass h.orderly p hm
  have hnot := h.not_held
  generalize s.held = mine at hmove hnot
  generalize (s.pass p m).held = mine' at hmove
  have hsame (hw : (s.pass p m).gateway.watchlist = s.gateway.watchlist) : Live r s₀ :=
    h.restored key r (hw ▸ hr) hpending haccount hnonce
  cases hmove with
  | keep steady turn le => exact hsame steady.watchlist_eq
  | grant steady turn got => exact hsame steady.watchlist_eq
  | back steady turn => exact hsame steady.watchlist_eq
  | issue watchlist_eq issued_eq turn => exact hsame watchlist_eq
  | enter entered issued_eq turn =>
      rw [(Watchlist.lookup?_of_enter entered).2] at hr
      split at hr
      · -- Whoever enters a transaction has had its nonce in hand.
        cases hr
        refine absurd (Multiset.mem_add.mpr (.inl ?_)) hnot
        rw [Record.held_of_pending hpending, haccount, hnonce]
        exact Multiset.mem_cons_of_mem (Multiset.mem_singleton_self _)
      · exact h.restored key r hr hpending haccount hnonce
  | poll polled issued_eq turn le =>
      rw [Watchlist.lookup?_of_polled polled] at hr
      split at hr
      · obtain ⟨r₁, hr₁, -, -, hrecord, -⟩ := Watchlist.polled?_eq_some polled
        cases hr
        have hwas : r₁.status = .pending := by
          by_cases hlive : r₁.isLive = true
          · exact Record.status_of_isLive hlive
          · simpa only [hrecord, if_neg hlive] using hpending
        have hrestored := h.restored _ r₁ hr₁ hwas (by rw [← haccount, hrecord])
          (by rw [← hnonce, hrecord])
        exact hrestored.congr (submission_of_polled polled hr₁)
      · exact h.restored key r hr hpending haccount hnonce
  | purge purged issued_eq turn =>
      rw [purged, Watchlist.lookup?_purge, Option.filter_eq_some_iff] at hr
      exact h.restored key r hr.1 hpending haccount hnonce

/-- A poll that gets the nonce back into hand finds a restored record dropped. -/
theorem Reserved.settles (h : Reserved s₀ a n s) {key : TxHash} {now : Timestamp} {status : Status}
    {o : Watchlist.Observation}
    (hpolled : s.gateway.watchlist.polled? key now status =
      some ((s.pass p m).gateway.watchlist, o))
    (hdrop : .nonce a n ∈ o.held) :
    ∃ r, r.account = a ∧ r.nonce = n ∧ Live r s₀ ∧ Settles p r .dropped s m := by
  obtain ⟨⟨hmade, hdropped⟩, rfl, rfl⟩ := Watchlist.Observation.mem_held.mp hdrop
  obtain ⟨r, hr, -, -, hrecord, hchanged⟩ := Watchlist.polled?_eq_some hpolled
  rw [hmade, eq_comm, Bool.and_eq_true] at hchanged
  have hpending := Record.status_of_isLive hchanged.1
  have hstatus : status = .dropped := by
    rw [hrecord, hchanged.1, if_pos rfl] at hdropped
    exact hdropped
  have haccount : r.account = o.record.account := by rw [hrecord]
  have hnonce : r.nonce = o.record.nonce := by rw [hrecord]
  obtain rfl : r.hash = key := h.keyed key r hr
  subst hstatus
  exact ⟨r, haccount, hnonce, h.restored _ r hr hpending haccount hnonce,
    ⟨r, hr, rfl, hpending⟩, rfl, now, o, hmade, hpolled⟩

/-- A reservation lasts until a restored record with the nonce is found dropped; then the nonce is
still to be given back. -/
theorem Reserved.pass (h : Reserved s₀ a n s) (hk : (s.gateway.ledger a).Kept)
    (hm : m.IsOrderly) :
    Reserved s₀ a n (s.pass p m) ∨
      (∃ r, r.account = a ∧ r.nonce = n ∧ Live r s₀ ∧ Settles p r .dropped s m) ∧
        ((s.pass p m).book a).Secures n := by
  have hmove := move_pass h.orderly p hm
  have hsecures : ((s.pass p m).book a).Secures n :=
    secures_pass hk h.secures fun hback => hmove.turn_ne_giveBack h.not_held hback.1
  by_cases hin : .nonce a n ∈ (s.pass p m).held
  · rcases hmove.granted_or_dropped h.not_held hin with
      ⟨choice, hturn, hgot⟩ | ⟨key, now, status, o, hpolled, hdrop⟩
    · -- What is handed out was not secured.
      exact absurd h.secures (HandsOut.secures (p := p) ⟨choice, hturn, hgot⟩ hk).1
    · exact .inr ⟨h.settles hpolled hdrop, hsecures⟩
  · exact .inl ⟨orderly_pass h.orderly p hm, hmove.keyed h.keyed, hsecures, hin,
      fun _ _ hr => h.restored_pass hm hr⟩

/-- In every run that begins with a recovery, whatever the store holds, in which the greatest nonce
is never pending: if the nonce of a restored record is handed out while the record is still pending,
another restored record of the same account and nonce has been found dropped before, and the nonce
has been given back. And whenever a nonce is given back, it can be handed out. -/
theorem handed_out_after_recovery (h : RecoversFirst p ms e) (a : Address) (n : Nat)
    (hroom : LeavesRoom p ms a) :
    (∀ r k, r.account = a → r.nonce = n → e < k → (∀ l, e < l → l ≤ k → Live r (upTo p ms l)) →
      At p ms k (HandsOut a n) →
      ∃ r' d b, r'.hash ≠ r.hash ∧ r'.account = a ∧ r'.nonce = n ∧ Live r' (upTo p ms (e + 1)) ∧
        e < d ∧ d < b ∧ b < k ∧ At p ms d (Settles p r' .dropped) ∧ At p ms b (TakesBack p a n)) ∧
    ∀ b, At p ms b (TakesBack p a n) →
      ((upTo p ms (b + 1)).gateway.obtain a (.named n)).2 = some (.ok n) := by
  have hkept := hroom.kept
  refine ⟨fun r k haccount hnonce hek hlive hhands => ?_, fun b ⟨m, hm, hback⟩ => ?_⟩
  · obtain ⟨m, hm, hhands⟩ := hhands
    have hlen := le_length hm
    have hmoment : ∀ l, l < k → ∃ m, ms[l]? = some m := fun l hl =>
      ⟨_, List.getElem?_eq_getElem (hl.trans_le hlen)⟩
    have hnot : ¬ ((upTo p ms k).book a).Secures n := (hhands.secures (p := p) (hkept k)).1
    have hfirst : Reserved (upTo p ms (e + 1)) a n (upTo p ms (e + 1)) := by
      subst haccount hnonce
      exact (h.recovered hroom).reserved (hlive (e + 1) (Nat.lt_succ_self e) hek)
    -- The reservation ends when a restored record is found dropped.
    obtain ⟨d, hed, hdk, hreserved, hover⟩ := exists_last_not
      (P := fun l => ¬ Reserved (upTo p ms (e + 1)) a n (upTo p ms l)) hek (not_not.mpr hfirst)
      fun hno => hnot hno.secures
    obtain ⟨md, hmd⟩ := hmoment d hdk
    have hnext := hover (d + 1) (Nat.lt_succ_self d) hdk
    rw [upTo_succ hmd] at hnext
    obtain ⟨⟨r', haccount', hnonce', hrestored, hdrops⟩, hstill⟩ :=
      ((not_not.mp hreserved).pass (p := p) (hkept d) (h.orderly_at hed hmd)).resolve_left hnext
    rw [← upTo_succ hmd] at hstill
    -- Later the nonce is given back.
    obtain ⟨b, hdb, hbk, hsecured, hlost⟩ := exists_last_not
      (P := fun l => ¬ ((upTo p ms l).book a).Secures n) hdk (not_not.mpr hstill) hnot
    obtain ⟨mb, hmb⟩ := hmoment b hbk
    have hgone := hlost (b + 1) (Nat.lt_succ_self b) hbk
    rw [upTo_succ hmb] at hgone
    refine ⟨r', d, b, ?_, haccount', hnonce', hrestored, hed, hdb, hbk, ⟨md, hmd, hdrops⟩, mb, hmb,
      ?_⟩
    · intro hhash
      have hstays := hlive (d + 1) (Nat.lt_succ_of_lt hed) hdk
      rw [upTo_succ hmd] at hstays
      exact hdrops.not_live hhash hstays
    · exact not_not.mp fun hno => hgone (secures_pass (hkept b) (not_not.mp hsecured) hno)
  · rw [upTo_succ hm]
    exact hback.obtain (hkept b)

/-- The record that has been stored when a moment comes. -/
def storing? (s : System) (m : Moment) : Option Record :=
  match m.what with
  | .event (.reply i slot .done) => (s.queries i).findSome? fun
    | (j, .saveRecord r) => if j = slot then some r else none
    | _ => none
  | _ => none

/-- What the store holds after a run: under each hash the record that was stored last. -/
def stored (p : Policy) (ms : List Moment) : Table TxHash Record :=
  (ms.foldl (fun (s, t) m => (s.pass p m, match s.storing? m with
    | some r => t.set r.hash r
    | none => t)) (({} : System), ∅)).2

/-- A run in which a transaction is found dropped, which cannot be stored, and another one with the
same nonce is sent and stored. -/
def lostUpdateRun (a : Address) : List Moment :=
  let later : Timestamp := ⟨(Duration.ofSeconds 601).nanos⟩
  let request : Request := { account := a, payload := ⟨a, [], 0, 21000⟩ }
  let first : List System.Event := [.start (.submit request), .reply 0 0 (.count 0),
    .reply 0 0 .done, .reply 0 0 .done, .reply 0 0 .done, .reply 0 0 (.price (.legacy 1)),
    .reply 0 0 (.signed [1]), .reply 0 0 (.accepted ⟨1⟩), .reply 0 0 .done]
  let second : List System.Event := [.start (.settle ⟨1⟩), .reply 1 0 (.receipt none),
    .reply 1 0 (.transaction none), .reply 1 0 .done, .reply 1 0 .done,
    .reply 1 0 (.failed (.database .closed)), .start (.submit request), .reply 2 0 .done,
    .reply 2 0 (.count 0), .reply 2 0 .done, .reply 2 0 .done, .reply 2 0 .done,
    .reply 2 0 (.price (.legacy 1)), .reply 2 0 (.signed [2]), .reply 2 0 (.accepted ⟨2⟩),
    .reply 2 0 .done]
  first.map (fun e => ⟨⟨0⟩, .event e⟩) ++ second.map fun e => ⟨later, .event e⟩

/-- A run in which records are recovered, the transaction of one of them is found dropped, and a
transaction is submitted. -/
def recoveryRun (a : Address) (rs : List Record) : List Moment :=
  let later : Timestamp := ⟨(Duration.ofSeconds 1300).nanos⟩
  let request : Request := { account := a, payload := ⟨a, [], 0, 21000⟩ }
  [.start (.recover []), .reply 0 0 (.accounts [a]), .reply 0 0 (.count 0), .reply 0 0 .done,
    .reply 0 0 (.records rs), .reply 0 0 .done, .reply 0 0 .done, .start (.settle ⟨1⟩),
    .reply 1 0 (.receipt none), .reply 1 0 (.transaction none), .reply 1 0 .done,
    .reply 1 0 .done, .start (.submit request), .reply 2 0 .done, .reply 2 0 (.count 0),
    .reply 2 0 .done, .reply 2 0 .done, .reply 2 0 .done].map fun e => ⟨later, .event e⟩

/-- Two records of transactions with the same nonce, both pending. -/
def twoRecords (a : Address) : List Record :=
  [.fresh ⟨0⟩ ⟨⟨0⟩, a, 0, ⟨1⟩⟩, .fresh ⟨(Duration.ofSeconds 601).nanos⟩ ⟨⟨1⟩, a, 0, ⟨2⟩⟩]

theorem recoversFirst_recoveryRun : RecoversFirst {} (recoveryRun ⟨0⟩ (twoRecords ⟨0⟩)) 6 where
  starts := ⟨_, _, rfl⟩
  answers := by simp [recoveryRun, Reply.IsForeign]
  returns := ⟨_, _, _, 2, rfl, rfl⟩
  orderly := by simp [recoveryRun, Moment.IsOrderly, Task.isOrderly]

theorem live_recoveryRun (l : Nat) (hl : 6 < l) (hl' : l ≤ 17) :
    Live (.fresh ⟨(Duration.ofSeconds 601).nanos⟩ ⟨⟨1⟩, ⟨0⟩, 0, ⟨2⟩⟩)
      (upTo {} (recoveryRun ⟨0⟩ (twoRecords ⟨0⟩)) l) := by
  interval_cases l <;> exact ⟨_, rfl, rfl, rfl⟩

/-- In that run the nonce of the second record is handed out; before, the first one has been found
dropped and the nonce has been given back. -/
theorem second_record_undercut :
    let ms := recoveryRun ⟨0⟩ (twoRecords ⟨0⟩)
    RecoversFirst {} ms 6 ∧ LeavesRoom {} ms ⟨0⟩ ∧ At {} ms 17 (HandsOut ⟨0⟩ 0) ∧
      ∃ r d b, r.hash ≠ ⟨2⟩ ∧ r.account = ⟨0⟩ ∧ r.nonce = 0 ∧ Live r (upTo {} ms 7) ∧
        6 < d ∧ d < b ∧ b < 17 ∧ At {} ms d (Settles {} r .dropped) ∧
          At {} ms b (TakesBack {} ⟨0⟩ 0) := by
  intro ms
  have hroom : LeavesRoom {} ms ⟨0⟩ := leavesRoom_of_length (by decide +kernel)
  have hhands : At {} ms 17 (HandsOut ⟨0⟩ 0) := ⟨_, rfl, .next, rfl, rfl⟩
  refine ⟨recoversFirst_recoveryRun, hroom, hhands, ?_⟩
  exact (handed_out_after_recovery recoversFirst_recoveryRun ⟨0⟩ 0 hroom).1 _ 17 rfl rfl
    (by decide) live_recoveryRun hhands

/-- The store that the first run leaves holds two pending records with one nonce. In a later run
they are recovered; then the nonce is given to a new submission while the second record is still
pending. -/
theorem given_while_pending :
    let ms := recoveryRun ⟨0⟩ (twoRecords ⟨0⟩)
    (stored {} (lostUpdateRun ⟨0⟩)).values = twoRecords ⟨0⟩ ∧ RecoversFirst {} ms 6 ∧
      ∃ r ∈ twoRecords ⟨0⟩, r.account = ⟨0⟩ ∧ r.nonce = 0 ∧
        (∀ l, 6 < l → l ≤ 17 → Live r (upTo {} ms l)) ∧
        ((upTo {} ms 17).gateway.ledger ⟨0⟩).confirmed ≤ 0 ∧ At {} ms 17 (Given 2 ⟨0⟩ 0) := by
  intro ms
  refine ⟨rfl, recoversFirst_recoveryRun, _, List.mem_cons_of_mem _ List.mem_cons_self, rfl, rfl,
    live_recoveryRun, ?_, _, rfl, _, 0, rfl, rfl, rfl, rfl⟩
  exact Nat.le_of_eq rfl

end System

end TxGateway
