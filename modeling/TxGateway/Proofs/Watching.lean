import TxGateway.Proofs.Whereabouts

/-!
# What becomes of a watched transaction

A live record stays as it is until a poll makes it final. A poll that finds a transaction dropped
takes its nonce in hand; after any other final status the nonce is in nobody's hands, and it is
locked: it is never handed out again.
-/

namespace TxGateway

/-- The submission of which a record tells. -/
def Record.submission (r : Record) : Submission := ⟨r.id, r.account, r.nonce, r.hash⟩

namespace Watchlist

variable {w w' : Watchlist} {h : TxHash} {r : Record}

theorem lookup?_of_enter (he : w.enter r = .ok w') :
    w.lookup? r.hash = none ∧ ∀ h, w'.lookup? h = if h = r.hash then some r else w.lookup? h := by
  simp only [enter] at he
  split at he
  · cases he
  · rename_i hnew
    split at he
    · cases he
    · cases he
      refine ⟨?_, fun h => w.records.get?_set r.hash r h⟩
      cases hget : w.records.get? r.hash with
      | none => exact hget
      | some r' => simp [Table.contains, hget] at hnew

theorem lookup?_of_polled {now : Timestamp} {status : Status} {o : Observation}
    (hp : w.polled? h now status = some (w', o)) (k : TxHash) :
    w'.lookup? k = if k = h then some o.record else w.lookup? k := by
  obtain ⟨r, -, hrecords, -⟩ := polled?_eq_some hp
  rw [lookup?, hrecords]
  exact w.records.get?_set h o.record k

theorem lookup?_purge (w : Watchlist) (cutoff : Timestamp) (h : TxHash) :
    (w.purge cutoff).lookup? h = (w.lookup? h).filter fun r => !isExpired cutoff r :=
  w.records.get?_filter _ h

theorem mem_held_of_lookup? {x : Token} (hr : w.lookup? h = some r) (hx : x ∈ r.held) :
    x ∈ w.held :=
  (Table.mem_tally Record.held).mpr ⟨h, r, hr, hx⟩

/-- Two records with one serial number are one record. -/
theorem eq_of_id_eq {k : TxHash} {r' : Record} (hr : w.lookup? h = some r)
    (hr' : w.lookup? k = some r') (hid : r.id = r'.id) (hn : w.held.count (.serial r.id) ≤ 1) :
    k = h := by
  have hserial : .serial r.id ∈ r'.held := by
    rw [hid]
    exact Multiset.mem_cons_self _ _
  exact Table.eq_of_mem Record.held hn hr' hr hserial (Multiset.mem_cons_self _ _)

theorem Observation.serial_not_held (o : Observation) (id : SubmissionId) :
    .serial id ∉ o.held := by
  rw [Observation.held]
  split
  · rw [Multiset.mem_singleton]
    intro heq
    cases heq
  · exact Multiset.notMem_zero _

/-- A live record that a poll makes final lets go of its nonce. -/
theorem held_of_final {now : Timestamp} {status : Status} {o : Observation}
    (hp : w.polled? h now status = some (w', o)) (hr : w.lookup? h = some r)
    (hlive : r.status = .pending) (hfinal : status.isFinal = true) :
    w.held = .nonce r.account r.nonce ::ₘ w'.held := by
  obtain ⟨r', hr', hrecords, -, hrecord, -⟩ := polled?_eq_some hp
  obtain rfl : r = r' := Option.some.inj (hr.symm.trans hr')
  obtain ⟨rest, hall, hset, -⟩ := Table.exists_rest Record.held hr'
  have hstatus : o.record.status.isFinal = true := by
    simp only [hrecord, Record.isLive_of_pending hlive, if_true, hfinal]
  have hid : o.record.id = r.id := by rw [hrecord]
  rw [held, held, hall, hrecords, hset, Record.held_of_pending hlive,
    Record.held_of_final hstatus, hid]
  rw [Multiset.cons_add, Multiset.singleton_add, Multiset.cons_swap, Multiset.singleton_add]

end Watchlist

section

variable {g g' : Gateway} {t : Option (Address × Turn)} {mine mine' : Multiset Token}

/-- Serial numbers are never taken back. -/
theorem Move.issued_le (h : Move g g' t mine mine') : g.issued ≤ g'.issued := by
  cases h with
  | keep steady turn le => exact steady.issued_eq.ge
  | grant steady turn got => exact steady.issued_eq.ge
  | back steady turn => exact steady.issued_eq.ge
  | issue watchlist_eq issued_eq turn => exact issued_eq ▸ Nat.le_succ _
  | enter entered issued_eq turn => exact issued_eq.ge
  | poll polled issued_eq turn le => exact issued_eq.ge
  | purge purged issued_eq turn => exact issued_eq.ge

/-- A serial number that has been issued before does not get into hand any more. -/
theorem Move.serial_not_mem (h : Move g g' t mine mine') {id : SubmissionId}
    (hnot : .serial id ∉ mine) (hlt : id.serial < g.issued) : .serial id ∉ mine' := by
  intro hin
  cases h with
  | keep steady turn le => exact hnot (Multiset.mem_of_le le hin)
  | grant steady turn got =>
      rcases Multiset.mem_cons.mp hin with heq | hwas
      · cases heq
      · exact hnot hwas
  | back steady turn => exact hnot (Multiset.mem_cons_of_mem hin)
  | issue watchlist_eq issued_eq turn =>
      rcases Multiset.mem_cons.mp hin with heq | hwas
      · cases heq
        exact hlt.ne rfl
      · exact hnot hwas
  | enter entered issued_eq turn => exact hnot (Multiset.mem_add.mpr (.inr hin))
  | poll polled issued_eq turn le =>
      rcases Multiset.mem_add.mp (Multiset.mem_of_le le hin) with hobs | hwas
      · exact Watchlist.Observation.serial_not_held _ id hobs
      · exact hnot hwas
  | purge purged issued_eq turn => exact hnot hin

end

namespace System

variable {p : Policy} {s : System} {m : Moment} {a : Address} {n : Nat} {r : Record}
  {id : SubmissionId}

/-- A transaction is watched and its outcome is open; polls may have asked for it. -/
def Live (r : Record) (s : System) : Prop :=
  ∃ r', s.gateway.watchlist.lookup? r.hash = some r' ∧ r'.submission = r.submission ∧
    r'.status = .pending

/-- A poll makes a live transaction final: its status is written into the record. -/
def Settles (p : Policy) (r : Record) (status : Status) (s : System) (m : Moment) : Prop :=
  Live r s ∧ status.isFinal = true ∧ ∃ now o, o.changed = true ∧
    s.gateway.watchlist.polled? r.hash now status = some ((s.pass p m).gateway.watchlist, o)

/-- A nonce that cannot be handed out and is in nobody's hands. -/
def Locked (a : Address) (n : Nat) (s : System) : Prop :=
  (s.book a).Secures n ∧ .nonce a n ∉ s.inHand

/-- A serial number that only a dropped transaction still has. -/
structure Spent (id : SubmissionId) (s : System) : Prop where
  /-- No call has it in hand. -/
  not_held : .serial id ∉ s.held
  /-- A watched transaction with this number is dropped. -/
  dropped : ∀ h r, s.gateway.watchlist.lookup? h = some r → r.id = id → r.status = .dropped
  /-- It has been issued. -/
  lt_issued : id.serial < s.gateway.issued

theorem Live.congr {r' : Record} (h : Live r s)
    (hsame : r'.submission = r.submission) : Live r' s := by
  obtain ⟨r₁, hr₁, heq, hpending⟩ := h
  have hhash : r'.hash = r.hash := congrArg Submission.hash hsame
  exact ⟨r₁, hhash ▸ hr₁, heq.trans hsame.symm, hpending⟩

theorem Live.mem_held (h : Live r s) : .nonce r.account r.nonce ∈ s.gateway.watchlist.held ∧
    .serial r.id ∈ s.gateway.watchlist.held := by
  obtain ⟨r', hr', hsame, hpending⟩ := h
  have hheld := Record.held_of_pending hpending
  simp only [Record.submission, Submission.mk.injEq] at hsame
  rw [← hsame.1, ← hsame.2.1, ← hsame.2.2.1]
  constructor
  · apply Watchlist.mem_held_of_lookup? hr'
    rw [hheld]
    exact Multiset.mem_cons_of_mem (Multiset.mem_singleton_self _)
  · exact Watchlist.mem_held_of_lookup? hr' (Multiset.mem_cons_self _ _)

theorem inHand_eq (s : System) : s.inHand = s.held + s.gateway.watchlist.held := rfl

/-- A nonce that gets out of all hands other than by being given back is locked. -/
theorem Coupled.locked_pass (hc : s.Coupled a) (hk : (s.gateway.ledger a).Kept)
    (hin : .nonce a n ∈ s.inHand) (hturn : s.turn? m = none)
    (hle : .nonce a n ::ₘ (s.pass p m).inHand ≤ s.inHand) : Locked a n (s.pass p m) := by
  constructor
  · apply System.secures_pass hk (hc.secures n hin)
    rintro ⟨hback, -⟩
    rw [hturn] at hback
    cases hback
  · have hcount := (Multiset.count_le_of_le (.nonce a n) hle).trans (hc.unique n)
    rw [← Multiset.singleton_add] at hcount
    exact not_mem_of_count_add_le hcount (Multiset.mem_singleton_self _)

/-- A locked nonce stays locked. -/
theorem Locked.pass (h : Locked a n s) (hc : s.Coupled a) (ho : s.Orderly)
    (hk : (s.gateway.ledger a).Kept) (hm : m.IsOrderly) : Locked a n (s.pass p m) := by
  have hx := (move_pass ho p hm).exchange
  refine ⟨hc.secures_pass hx hk h.1 (.inr h.2), fun hin => ?_⟩
  cases hx with
  | lose turn issued_eq le => exact h.2 (Multiset.mem_of_le le hin)
  | grant turn got issued_eq eq =>
      change (s.pass p m).inHand = _ ::ₘ s.inHand at eq
      rw [eq] at hin
      rcases Multiset.mem_cons.mp hin with heq | hwas
      · cases heq
        exact (HandsOut.secures (p := p) ⟨_, turn, got⟩ hk).1 h.1
      · exact h.2 hwas
  | back turn issued_eq eq =>
      change s.inHand = _ ::ₘ (s.pass p m).inHand at eq
      apply h.2
      rw [eq]
      exact Multiset.mem_cons_of_mem hin
  | issue turn issued_eq eq =>
      change (s.pass p m).inHand = _ ::ₘ s.inHand at eq
      rw [eq] at hin
      rcases Multiset.mem_cons.mp hin with heq | hwas
      · cases heq
      · exact h.2 hwas

/-- A spent serial number stays spent. -/
theorem Spent.pass (h : Spent id s) (ho : s.Orderly) (hm : m.IsOrderly) :
    Spent id (s.pass p m) := by
  have hmove := move_pass ho p hm
  refine ⟨hmove.serial_not_mem h.not_held h.lt_issued, ?_, h.lt_issued.trans_le hmove.issued_le⟩
  have hnot := h.not_held
  generalize s.held = mine at hmove hnot
  generalize (s.pass p m).held = mine' at hmove
  intro k' r' hr' hid
  cases hmove with
  | keep steady turn le => exact h.dropped k' r' (steady.watchlist_eq ▸ hr') hid
  | grant steady turn got => exact h.dropped k' r' (steady.watchlist_eq ▸ hr') hid
  | back steady turn => exact h.dropped k' r' (steady.watchlist_eq ▸ hr') hid
  | issue watchlist_eq issued_eq turn => exact h.dropped k' r' (watchlist_eq ▸ hr') hid
  | @enter _ r entered issued_eq turn =>
      rw [(Watchlist.lookup?_of_enter entered).2] at hr'
      split at hr'
      · -- The number of a transaction that is entered has been in hand.
        cases hr'
        apply absurd _ hnot
        rw [← hid]
        exact Multiset.mem_add.mpr (.inl (Multiset.mem_cons_self _ _))
      · exact h.dropped k' r' hr' hid
  | @poll _ _ k now status o polled issued_eq turn le =>
      rw [Watchlist.lookup?_of_polled polled] at hr'
      split at hr'
      · obtain ⟨r, hr, -, -, hrecord, -⟩ := Watchlist.polled?_eq_some polled
        cases hr'
        rw [hrecord] at hid ⊢
        have hdropped := h.dropped k r hr hid
        simp [Record.isLive, hdropped, Status.isFinal]
      · exact h.dropped k' r' hr' hid
  | purge purged issued_eq turn =>
      rw [purged, Watchlist.lookup?_purge, Option.filter_eq_some_iff] at hr'
      exact h.dropped k' r' hr'.1 hid

/-- A record keeps its submission when a status is taken in. -/
theorem submission_of_polled {w w' : Watchlist} {h : TxHash} {now : Timestamp} {status : Status}
    {o : Watchlist.Observation} (hp : w.polled? h now status = some (w', o))
    (hr : w.lookup? h = some r) : o.record.submission = r.submission := by
  obtain ⟨r', hr', -, -, hrecord, -⟩ := Watchlist.polled?_eq_some hp
  obtain rfl : r = r' := Option.some.inj (hr.symm.trans hr')
  rw [hrecord]
  rfl

/-- When a record becomes dropped, its serial number is spent. -/
theorem Numbered.spent_of_dropped (hc : s.Numbered) {h : TxHash} {now : Timestamp} {status : Status}
    {o : Watchlist.Observation}
    (hp : s.gateway.watchlist.polled? h now status = some ((s.pass p m).gateway.watchlist, o))
    (hr : s.gateway.watchlist.lookup? h = some r) (hdropped : o.record.status = .dropped)
    (hissued : (s.pass p m).gateway.issued = s.gateway.issued)
    (hle : (s.pass p m).held ≤ o.held + s.held) : Spent r.id (s.pass p m) := by
  have hwatched : .serial r.id ∈ s.gateway.watchlist.held :=
    Watchlist.mem_held_of_lookup? hr (Multiset.mem_cons_self _ _)
  have hunique := hc.unique r.id
  refine ⟨fun hin => ?_, fun k r' hr' hid => ?_, ?_⟩
  · rcases Multiset.mem_add.mp (Multiset.mem_of_le hle hin) with hobs | hwas
    · exact o.serial_not_held r.id hobs
    · exact not_mem_of_count_add_le hunique hwas hwatched
  · rw [Watchlist.lookup?_of_polled hp] at hr'
    split at hr'
    · cases hr'
      exact hdropped
    · rename_i hne
      have hle := (s.count_watched_le (.serial r.id)).trans hunique
      exact absurd (Watchlist.eq_of_id_eq hr hr' hid.symm hle) hne
  · rw [hissued]
    exact hc.lt_issued r.id (Multiset.mem_add.mpr (.inr hwatched))

/-- A live transaction stays live, or a poll settles it. If it is dropped, its serial number is
spent; otherwise its nonce is locked. -/
theorem Live.pass (h : Live r s) (ho : s.Orderly) (hm : m.IsOrderly) :
    Live r (s.pass p m) ∨ ∃ status, Settles p r status s m ∧
      (status = .dropped → s.Numbered → Spent r.id (s.pass p m)) ∧
      (status ≠ .dropped → s.Coupled r.account → (s.gateway.ledger r.account).Kept →
        Locked r.account r.nonce (s.pass p m)) := by
  have hlive := h
  obtain ⟨hnonce, hserial⟩ := h.mem_held
  obtain ⟨r', hr', hsame, hpending⟩ := h
  have hmove := (move_pass ho p hm)
  generalize hmine : s.held = mine at hmove
  generalize hmine' : (s.pass p m).held = mine' at hmove
  cases hmove with
  | keep steady turn le => exact .inl ⟨r', by rw [steady.watchlist_eq]; exact hr', hsame, hpending⟩
  | grant steady turn got =>
      exact .inl ⟨r', by rw [steady.watchlist_eq]; exact hr', hsame, hpending⟩
  | back steady turn => exact .inl ⟨r', by rw [steady.watchlist_eq]; exact hr', hsame, hpending⟩
  | issue watchlist_eq issued_eq turn =>
      exact .inl ⟨r', by rw [watchlist_eq]; exact hr', hsame, hpending⟩
  | @enter _ r₀ entered issued_eq turn =>
      obtain ⟨hnew, hlookup⟩ := Watchlist.lookup?_of_enter entered
      refine .inl ⟨r', ?_, hsame, hpending⟩
      rw [hlookup, if_neg fun heq => ?_]
      · exact hr'
      · rw [← heq, hr'] at hnew
        cases hnew
  | @poll _ _ k now status o polled issued_eq turn le =>
      by_cases hk' : r.hash = k
      · subst hk'
        have hsub := submission_of_polled polled hr'
        have hlookup := Watchlist.lookup?_of_polled polled r.hash
        rw [if_pos rfl] at hlookup
        obtain ⟨r₁, hr₁, -, -, hrecord, hchanged⟩ := Watchlist.polled?_eq_some polled
        obtain rfl : r' = r₁ := Option.some.inj (hr'.symm.trans hr₁)
        have hstatus : o.record.status = status := by
          simp only [hrecord, Record.isLive_of_pending hpending, if_true]
        cases hfinal : status.isFinal with
        | false =>
            have hopen : status = .pending := by cases status <;> simp_all [Status.isFinal]
            exact .inl ⟨o.record, hlookup, hsub.trans hsame, hstatus.trans hopen⟩
        | true =>
            have hall := Watchlist.held_of_final polled hr' hpending hfinal
            have hchange : o.changed = true := by
              rw [hchanged, Record.isLive_of_pending hpending, hfinal]
              rfl
            simp only [Record.submission, Submission.mk.injEq] at hsame
            rw [hsame.2.1, hsame.2.2.1] at hall
            refine .inr ⟨status, ⟨hlive, hfinal, now, o, hchange, polled⟩, ?_, ?_⟩
            · intro hdropped hn
              rw [← hsame.1]
              exact hn.spent_of_dropped polled hr' (hstatus.trans hdropped) issued_eq
                (hmine ▸ hmine' ▸ le)
            · intro hdropped hc hk
              have hnone : o.held = 0 := by
                rw [Watchlist.Observation.held, if_neg fun hf => hdropped (hstatus ▸ hf.2)]
              rw [hnone, zero_add] at le
              apply hc.locked_pass hk (Multiset.mem_add.mpr (.inr hnonce)) turn
              rw [inHand_eq, inHand_eq, hall, hmine, hmine', Multiset.add_cons]
              exact Multiset.cons_le_cons _ (add_le_add_left le _)
      · refine .inl ⟨r', ?_, hsame, hpending⟩
        rw [Watchlist.lookup?_of_polled polled, if_neg hk']
        exact hr'
  | purge purged issued_eq turn =>
      refine .inl ⟨r', ?_, hsame, hpending⟩
      rw [purged, Watchlist.lookup?_purge, hr']
      simp [Option.filter, Watchlist.isExpired, hpending, Status.isFinal]

end System

end TxGateway
