import TxGateway.Proofs.Rebuilding
import TxGateway.Proofs.Restoring
import TxGateway.Proofs.World

/-!
# Recovery rebuilds what the store says

A recovery in a world that stands still ends with the number of stored records. After it exactly
those are watched, and each ledger follows the book that its account's live records give. In which
order the store gives them does not matter, and to recover again changes nothing but the times.
-/

namespace TxGateway

namespace Recover

theorem mem_union (as held : List Address) (a : Address) :
    a ∈ union as held ↔ a ∈ as ∨ a ∈ held := by
  induction held generalizing as with
  | nil => simp [union]
  | cons b held ih =>
      have hstep : union as (b :: held) = union (if b ∈ as then as else as ++ [b]) held := rfl
      rw [hstep, ih, List.mem_cons]
      split
      · rename_i hb
        constructor
        · exact Or.imp_right .inr
        · rintro (ha | rfl | ha)
          · exact .inl ha
          · exact .inl hb
          · exact .inr ha
      · rw [List.mem_append, List.mem_singleton, or_assoc]

theorem length_union_le (as held : List Address) :
    (union as held).length ≤ as.length + held.length := by
  induction held generalizing as with
  | nil => simp [union]
  | cons b held ih =>
      calc
        (union as (b :: held)).length
            = (union (if b ∈ as then as else as ++ [b]) held).length := rfl
        _ ≤ (if b ∈ as then as else as ++ [b]).length + held.length := ih _
        _ ≤ as.length + (b :: held).length := by
            rw [List.length_cons]
            split
            · omega
            · rw [List.length_append, List.length_singleton]
              omega

variable {w : World} {g : Gateway} {count : Address → Nat} {as : List Address}
  {rs : List Record} {ts : List Timestamp}

/-- What becomes of a recovery that gets the answers of a world at some points in time. -/
def follow (w : World) : List Timestamp → Gateway × Progress Recover (Except Failure Nat) →
    Gateway × Progress Recover (Except Failure Nat)
  | t :: ts, (g, .waiting c) => follow w ts (c.resume t g (w.answer c.query))
  | _, state => state

@[simp] theorem follow_ended (result : Except Failure Nat) :
    follow w ts (g, .ended result) = (g, .ended result) := by
  cases ts <;> rfl

/-- Every account takes two answers: its count, and the turn at which it is taken in. -/
theorem follow_accounts (h : g.Rebuilt w.count as rs) (rest : List Address)
    (hts : 2 * rest.length ≤ ts.length) :
    ∃ t, t.Rebuilt w.count (as ++ rest) rs ∧ t.watchlist = g.watchlist ∧
      follow w ts (g, .waiting (nextAccount rest)) =
        follow w (ts.drop (2 * rest.length)) (t, .waiting .loading) := by
  induction rest generalizing g as ts with
  | nil => exact ⟨g, by rwa [List.append_nil], rfl, rfl⟩
  | cons a rest ih =>
      obtain ⟨t₁, t₂, ts, rfl⟩ : ∃ t₁ t₂ ts', ts = t₁ :: t₂ :: ts' := by
        match ts, hts with
        | t₁ :: t₂ :: ts, _ => exact ⟨t₁, t₂, ts, rfl⟩
      have hlength : 2 * rest.length ≤ ts.length := by
        simp only [List.length_cons] at hts
        omega
      obtain ⟨t, ht, hwatch, hfollow⟩ := ih (h.reconcile t₂ a) hlength
      refine ⟨t, ?_, hwatch.trans (g.spares_reconcile a t₂ (w.count a)).watchlist_eq, hfollow⟩
      rwa [List.append_assoc] at ht

/-- A claim that gets its turn at a ledger that is up to date is over, whether the nonce is free or
not; the recovery goes on with the records that are left. -/
theorem follow_turn {t : Gateway} {r : Record} {result : Except Failure Nat}
    (hgot : g.obtain r.account (.named r.nonce) = (t, some result))
    (hresult : (∃ n, result = .ok n) ∨
      ∃ message, result = .error (.nonceTaken r.account r.nonce message))
    (rest : List Record) (total : Nat) (now : Timestamp) :
    follow w (now :: ts) (g, .waiting (.claiming r .turn rest total)) =
      follow w ts (takeIn total t rest) := by
  rcases hresult with ⟨n, rfl⟩ | ⟨message, rfl⟩
  · simp only [follow, query, Obtain.query, World.answer, resume, Obtain.resume, hgot]
  · simp only [follow, query, Obtain.query, World.answer, resume, Obtain.resume, hgot]

/-- A claim at a ledger that has never been brought up to date does that first. -/
theorem follow_seeding {r : Record} (hs : (g.ledger r.account).seeded = false)
    (rest : List Record) (total : Nat) (t₁ t₂ t₃ : Timestamp) :
    follow w (t₁ :: t₂ :: t₃ :: ts) (g, .waiting (.claiming r .turn rest total)) =
      follow w ts ((g.reconcile t₃ r.account (w.count r.account)).1,
        .waiting (.claiming r .turn rest total)) := by
  have hnone : g.obtain r.account (.named r.nonce) = (g, none) := by simp [Gateway.obtain, hs]
  simp only [follow, query, Obtain.query, Reconcile.query, World.answer, resume, Obtain.resume,
    Reconcile.resume, hnone]

/-- A live record takes one answer if its account has a ledger, and four if it has none. -/
theorem follow_live {r : Record} (h : g.Rebuilt w.count as rs) (hlive : r.isLive = true)
    (hnonce : ∀ r' ∈ rs ++ [r], r'.isLive = true → r'.nonce < Ledger.lastNonce)
    (rest : List Record) (total : Nat) (hts : 4 ≤ ts.length) :
    ∃ t k, k ≤ 4 ∧ t.Rebuilt w.count as (rs ++ [r]) ∧ t.watchlist = g.watchlist.restore r ∧
      follow w ts (takeIn total g (r :: rest)) = follow w (ts.drop k) (takeIn total t rest) := by
  obtain ⟨t₁, t₂, t₃, t₄, ts, rfl⟩ : ∃ t₁ t₂ t₃ t₄ ts', ts = t₁ :: t₂ :: t₃ :: t₄ :: ts' := by
    match ts, hts with
    | t₁ :: t₂ :: t₃ :: t₄ :: ts, _ => exact ⟨t₁, t₂, t₃, t₄, ts, rfl⟩
  have htake : takeIn total g (r :: rest) =
      ((g.restore r).ensureLedger r.account, .waiting (.claiming r .turn rest total)) := by
    simp only [takeIn, hlive, if_true, Obtain.start]
  have hrestored := h.restore r
  rw [htake]
  generalize hg' : g.restore r = g' at hrestored
  have hwatch' : g'.watchlist = g.watchlist.restore r := by rw [← hg']; rfl
  rw [← hwatch']
  cases hc : g'.ledgers.contains r.account with
  | true =>
      obtain ⟨t, result, hgot, ht, hwatch, hresult⟩ := hrestored.claim hlive hnonce hc
      refine ⟨t, 1, by omega, ht, hwatch, ?_⟩
      rw [g'.ensureLedger_of_contains _ hc]
      exact follow_turn hgot hresult rest total t₁
  | false =>
      have hseed := hrestored.seed t₃ r.account
      have hknown := (hseed.contains_iff r.account).mpr (.inl (by simp))
      obtain ⟨t, result, hgot, ht, hwatch, hresult⟩ := hseed.claim hlive hnonce hknown
      refine ⟨t, 4, le_rfl, ?_, ?_, ?_⟩
      · apply ht.congr fun _ => rfl
        intro a
        rw [isKnown_append_live hlive, isKnown_append_live hlive, isKnown_append,
          List.mem_singleton, or_self_left]
      · rw [hwatch, ((g'.ensureLedger r.account).spares_reconcile _ _ _).watchlist_eq,
          (g'.spares_ensureLedger r.account).watchlist_eq]
      · have hunseeded : ((g'.ensureLedger r.account).ledger r.account).seeded = false := by
          rw [g'.ledger_ensureLedger, g'.ledger_of_not_contains r.account hc]
        rw [follow_seeding hunseeded]
        exact follow_turn hgot hresult rest total t₄

/-- The records are taken in one after another. -/
theorem follow_records (h : g.Rebuilt w.count as rs) (hw : g.watchlist.Holds rs)
    (rest : List Record) (total : Nat) (hhash : ∀ r ∈ rs ++ rest, ∀ r' ∈ rs ++ rest,
      r.hash = r'.hash → r = r')
    (hnonce : ∀ r ∈ rs ++ rest, r.isLive = true → r.nonce < Ledger.lastNonce)
    (hts : 4 * rest.length ≤ ts.length) :
    ∃ t, follow w ts (takeIn total g rest) = (t, .ended (.ok total)) ∧
      t.Rebuilt w.count as (rs ++ rest) ∧ t.watchlist.Holds (rs ++ rest) := by
  -- What has been taken in so far grows from the front of the list.
  induction rest generalizing g rs ts with
  | nil =>
      rw [List.append_nil]
      exact ⟨g, follow_ended _, h, hw⟩
  | cons r rest ih =>
      have hhold : (g.watchlist.restore r).Holds (rs ++ [r]) := by
        apply hw.restore
        intro r' hr' heq
        exact hhash r' (by simp [hr']) r (by simp) heq
      rw [List.append_cons] at hhash hnonce ⊢
      rw [List.length_cons] at hts
      by_cases hlive : r.isLive = true
      · have hfour : 4 ≤ ts.length := by omega
        have hclaimed : ∀ r' ∈ rs ++ [r], r'.isLive = true → r'.nonce < Ledger.lastNonce :=
          fun r' hr' => hnonce r' (List.mem_append_left rest hr')
        obtain ⟨t, k, hk, ht, hwatch, hfollow⟩ := follow_live h hlive hclaimed rest total hfour
        rw [hfollow]
        apply ih ht (hwatch ▸ hhold) hhash hnonce
        rw [List.length_drop]
        omega
      · have htake : takeIn total g (r :: rest) = takeIn total (g.restore r) rest := by
          simp only [takeIn, hlive, Bool.false_eq_true, if_false]
        rw [htake]
        exact ih ((h.restore r).final hlive) hhold hhash hnonce (by omega)

/-- With enough answers a recovery takes in everything and ends with the number of records. -/
theorem follow_listing (h : g.Rebuilt w.count as rs) (hw : g.watchlist.Holds rs)
    (held : List Address) (hhash : ∀ r ∈ rs ++ w.records, ∀ r' ∈ rs ++ w.records,
      r.hash = r'.hash → r = r')
    (hnonce : ∀ r ∈ rs ++ w.records, r.isLive = true → r.nonce < Ledger.lastNonce)
    (hts : w.enough held ≤ ts.length) :
    ∃ t, follow w ts (g, .waiting (.listing held)) = (t, .ended (.ok w.records.length)) ∧
      t.Rebuilt w.count (as ++ union w.accounts held) (rs ++ w.records) ∧
      t.watchlist.Holds (rs ++ w.records) := by
  have hunion := length_union_le w.accounts held
  rw [World.enough] at hts
  -- The first answer lists the remembered accounts; then each account is brought up to date.
  obtain ⟨t₁, ts, rfl⟩ := List.exists_cons_of_length_pos (l := ts) (by omega)
  rw [List.length_cons] at hts
  have haccounts : 2 * (union w.accounts held).length ≤ ts.length := by omega
  obtain ⟨g', h', hwatch, hfollow⟩ := follow_accounts h (union w.accounts held) haccounts
  have hleft : 1 + 4 * w.records.length ≤
      (ts.drop (2 * (union w.accounts held).length)).length := by
    rw [List.length_drop]
    omega
  -- The next answer lists the records.
  generalize ts.drop (2 * (union w.accounts held).length) = us at hleft hfollow
  obtain ⟨t₂, us, rfl⟩ := List.exists_cons_of_length_pos (l := us) (by omega)
  rw [List.length_cons] at hleft
  have hlisting : follow w (t₁ :: ts) (g, .waiting (.listing held)) =
      follow w us (takeIn w.records.length g' w.records) := hfollow
  rw [hlisting]
  exact follow_records h' (hwatch ▸ hw) w.records _ hhash hnonce (by omega)

end Recover

/-- What a gateway knows after a recovery. -/
structure Gateway.Recovered (g : Gateway) (w : World) (held : List Address) : Prop where
  /-- Exactly the stored records are watched. -/
  lookup?_iff : ∀ h r, g.watchlist.lookup? h = some r ↔ r ∈ w.records ∧ r.hash = h
  /-- A nonce has a live holder exactly if a live record uses it. -/
  liveHolder?_isSome_iff : ∀ a n, (g.watchlist.liveHolder? a n).isSome = true ↔
    ∃ r ∈ w.records, r.isLive = true ∧ r.account = a ∧ r.nonce = n
  /-- The accounts with a ledger are the remembered ones, those that the signer holds, and those of
  the live records. -/
  contains_iff : ∀ a, g.ledgers.contains a = true ↔
    a ∈ w.accounts ∨ a ∈ held ∨ ∃ r ∈ w.records, r.isLive = true ∧ r.account = a
  /-- Each ledger is up to date, and follows the book that the live records of its account give. -/
  follows : ∀ a l, g.ledgers.get? a = some l →
    l.Follows (.ofRecords a (w.count a) w.records) ∧ l.seeded = true

/-- Two gateways that agree on every ledger, but for the time at which the chain was last asked, and
on every watched transaction. -/
structure Gateway.Agrees (g t : Gateway) : Prop where
  /-- The same accounts have a ledger, and the same one up to that time. -/
  ledgers : ∀ a, (t.ledgers.get? a).map Ledger.expire = (g.ledgers.get? a).map Ledger.expire
  /-- The same is watched under each hash. -/
  lookups : ∀ h, t.watchlist.lookup? h = g.watchlist.lookup? h

/-- Which accounts are known and which records there are decides what a gateway rebuilds. -/
theorem Gateway.Rebuilt.agrees {g t : Gateway} {count : Address → Nat} {as as' : List Address}
    {rs rs' : List Record} (h : g.Rebuilt count as rs) (hw : g.watchlist.Holds rs)
    (h' : t.Rebuilt count as' rs') (hw' : t.watchlist.Holds rs') (hrs : ∀ r, r ∈ rs' ↔ r ∈ rs)
    (hknown : ∀ a, IsKnown as' rs' a ↔ IsKnown as rs a) : g.Agrees t where
  ledgers := by
    intro a
    have hcontains : t.ledgers.contains a = true ↔ g.ledgers.contains a = true := by
      rw [h.contains_iff, h'.contains_iff, hknown]
    have hfollows := h.follows a
    have hfollows' := h'.follows a
    rw [Book.ofRecords_congr hrs] at hfollows'
    simp only [Table.contains] at hcontains
    cases hget : g.ledgers.get? a with
    | none => simpa [hget] using hcontains
    | some l =>
        obtain ⟨l', hget'⟩ := Option.isSome_iff_exists.mp (hcontains.mpr (by rw [hget]; rfl))
        obtain ⟨hl, hs⟩ := hfollows l hget
        obtain ⟨hl', hs'⟩ := hfollows' l' hget'
        rw [hget', Option.map_some, Option.map_some, hl'.expire_eq hl (hs'.trans hs.symm)]
  lookups := by
    intro k
    ext r
    rw [hw.lookup?_iff, hw'.lookup?_iff, hrs]

namespace System

variable {p : Policy} {s : System} {i : Nat} {c : Recover} {w : World} {held : List Address}
  {ts : List Timestamp} {g : Gateway}

/-- A recovery in a system is carried through as it is on its own. -/
theorem attend_recover {result : Except Failure Nat} (hcall : s.calls.get? i = some (.recover c))
    (hfollow : Recover.follow w ts (s.gateway, .waiting c) = (g, .ended result)) :
    ∃ s', s.attend p w i ts = (s', some (.ofResult .counted result)) ∧ s'.gateway = g := by
  induction ts generalizing s c with
  | nil => cases hfollow
  | cons t ts ih =>
      have hqueries : s.queries i = [(0, c.query)] := by
        rw [queries, hcall]
        rfl
      have hresume : (Call.recover c).resume p t s.gateway 0 (w.answer c.query) =
          ((c.resume t s.gateway (w.answer c.query)).1,
            (c.resume t s.gateway (w.answer c.query)).2.map .recover (.ofResult .counted)) := by
        cases c.query <;> rfl
      rw [Recover.follow] at hfollow
      generalize c.resume t s.gateway (w.answer c.query) = next at hresume hfollow
      obtain ⟨g₁, progress⟩ := next
      cases progress with
      | waiting c' =>
          have hreply : s.reply p t i 0 (w.answer c.query) =
              ({ s with gateway := g₁, calls := s.calls.set i (.recover c') }, { call := i }) := by
            simp only [System.reply, hcall, hresume, Progress.map]
          simp only [attend, hqueries, hreply]
          exact ih (Table.get?_set_self _ _ _) hfollow
      | ended result' =>
          have hreply : s.reply p t i 0 (w.answer c.query) =
              ({ s with gateway := g₁, calls := s.calls.erase i },
                { call := i, ending := some (.ofResult .counted result') }) := by
            simp only [System.reply, hcall, hresume, Progress.map, Ending.ofResult]
          rw [Recover.follow_ended] at hfollow
          cases hfollow
          simp only [attend, hqueries, hreply]
          exact ⟨_, rfl, rfl⟩

/-- A recovery ends with the number of stored records. It takes in everything, and leaves nothing
beside that if only some of it had been taken in before. -/
theorem recoverIn_rebuilds {as : List Address} {rs : List Record}
    (h : s.gateway.Rebuilt w.count as rs) (hw : s.gateway.watchlist.Holds rs)
    (has : as ⊆ Recover.union w.accounts held) (hrs : rs ⊆ w.records)
    (hhash : (w.records.map (·.hash)).Nodup)
    (hnonce : ∀ r ∈ w.records, r.isLive = true → r.nonce < Ledger.lastNonce) (now : Timestamp)
    (hts : w.enough held ≤ ts.length) :
    ∃ s', s.recoverIn p w held now ts = (s', some (.ofValue (.counted w.records.length))) ∧
      s'.gateway.Rebuilt w.count (Recover.union w.accounts held) w.records ∧
      s'.gateway.watchlist.Holds w.records := by
  have haccounts : ∀ a, a ∈ as ++ Recover.union w.accounts held ↔
      a ∈ Recover.union w.accounts held := by
    intro a
    rw [List.mem_append, or_iff_right_of_imp fun ha => has ha]
  have hrecords : ∀ r, r ∈ rs ++ w.records ↔ r ∈ w.records := by
    intro r
    rw [List.mem_append, or_iff_right_of_imp fun hr => hrs hr]
  have hsame : ∀ r ∈ rs ++ w.records, ∀ r' ∈ rs ++ w.records, r.hash = r'.hash → r = r' := by
    intro r hr r' hr' heq
    exact List.inj_on_of_nodup_map hhash ((hrecords r).mp hr) ((hrecords r').mp hr') heq
  obtain ⟨g, hfollow, hg, hgw⟩ := Recover.follow_listing h hw held hsame
    (fun r hr => hnonce r ((hrecords r).mp hr)) hts
  have hcall : (s.enroll (.recover (.listing held))).calls.get? s.opened =
      some (.recover (.listing held)) := Table.get?_set_self _ _ _
  obtain ⟨s', hattend, rfl⟩ := attend_recover (p := p) hcall hfollow
  refine ⟨s', hattend, hg.congr ?_ ?_, hgw.congr hrecords⟩
  · intro a
    exact Book.ofRecords_congr fun r => (hrecords r).symm
  · intro a
    exact isKnown_congr (fun o => (haccounts o).symm) (fun r => (hrecords r).symm) a

/-- The same in a world that gives everything in another order comes to the same. -/
theorem recoverIn_agrees {w' : World} {held' as : List Address} {rs : List Record}
    (h : s.gateway.Rebuilt w.count as rs) (hw : s.gateway.watchlist.Holds rs)
    (has : as ⊆ Recover.union w.accounts held) (hrs : rs ⊆ w.records)
    (hhash : (w.records.map (·.hash)).Nodup)
    (hnonce : ∀ r ∈ w.records, r.isLive = true → r.nonce < Ledger.lastNonce)
    (hg : g.Rebuilt w.count (Recover.union w.accounts held) w.records)
    (hgw : g.watchlist.Holds w.records)
    (hw' : w.Reorders w') (hheld : held'.Perm held) (now : Timestamp)
    (hts : w'.enough held' ≤ ts.length) :
    ∃ t, s.recoverIn p w' held' now ts = (t, some (.ofValue (.counted w.records.length))) ∧
      g.Agrees t.gateway := by
  obtain ⟨hcount, haccounts, hrecords⟩ := hw'
  have hunion : ∀ a, a ∈ Recover.union w'.accounts held' ↔ a ∈ Recover.union w.accounts held := by
    intro a
    rw [Recover.mem_union, Recover.mem_union, haccounts.mem_iff, hheld.mem_iff]
  have hmem : ∀ r, r ∈ w'.records ↔ r ∈ w.records := fun r => hrecords.mem_iff
  have hhash' : (w'.records.map (·.hash)).Nodup := (hrecords.map _).nodup_iff.mpr hhash
  rw [← hcount] at h hg
  obtain ⟨t, hrun, ht, htw⟩ := recoverIn_rebuilds (p := p) h hw
    (fun a ha => (hunion a).mpr (has ha)) (fun r hr => (hmem r).mpr (hrs hr)) hhash'
    (fun r hr => hnonce r ((hmem r).mp hr)) now hts
  rw [hrecords.length_eq] at hrun
  exact ⟨t, hrun, hg.agrees hgw ht htw hmem (isKnown_congr hunion hmem)⟩

/-- A recovery of a fresh system takes in exactly what the store holds, unless a live record has the
greatest nonce. The order in which the store
and the signer give it does not matter, and to recover once more leaves everything as it is. -/
theorem recovery_rebuilds (p : Policy) (w : World) (held : List Address)
    (hhash : (w.records.map (·.hash)).Nodup)
    (hnonce : ∀ r ∈ w.records, r.isLive = true → r.nonce < Ledger.lastNonce) (now : Timestamp)
    (hts : w.enough held ≤ ts.length) :
    ∃ s, recoverIn p w held {} now ts = (s, some (.ofValue (.counted w.records.length))) ∧
      s.gateway.Recovered w held ∧
      ∀ w' held' now' ts', w.Reorders w' → held'.Perm held → w'.enough held' ≤ ts'.length →
        (∃ t, recoverIn p w' held' {} now' ts' =
            (t, some (.ofValue (.counted w.records.length))) ∧ s.gateway.Agrees t.gateway) ∧
          ∃ t, recoverIn p w' held' s now' ts' =
            (t, some (.ofValue (.counted w.records.length))) ∧ s.gateway.Agrees t.gateway := by
  have hfresh : ({} : System).gateway.Rebuilt w.count [] [] := Gateway.rebuilt_fresh
  have hnone : ({} : System).gateway.watchlist.Holds [] := Watchlist.holds_nil
  have has : [] ⊆ Recover.union w.accounts held := List.nil_subset _
  have hrs : [] ⊆ w.records := List.nil_subset _
  obtain ⟨s, hrun, hs, hw⟩ := recoverIn_rebuilds (p := p) hfresh hnone has hrs hhash hnonce
    now hts
  refine ⟨s, hrun, ⟨hw.lookup?_iff, hw.liveHolder?_isSome_iff, ?_, hs.follows⟩, ?_⟩
  · intro a
    rw [hs.contains_iff, IsKnown, Recover.mem_union, or_assoc]
  · intro w' held' now' ts' hw' hheld hts'
    constructor
    · exact recoverIn_agrees hfresh hnone has hrs hhash hnonce hs hw hw' hheld now' hts'
    · exact recoverIn_agrees hs hw (List.Subset.refl _) (List.Subset.refl _) hhash hnonce hs hw hw'
        hheld now' hts'

/-- An account whose count is 5, with live records at 3 and 7 and a final one at 6, and another
account with a live record that nobody remembers. -/
def smallWorld : World :=
  let record (h a n : Nat) (status : Status) : Record :=
    ⟨⟨h⟩, ⟨BitVec.ofNat 256 h⟩, ⟨BitVec.ofNat 160 a⟩, n, ⟨0⟩, status, none⟩
  { count := fun a => if a = ⟨0⟩ then 5 else 0
    accounts := [⟨0⟩]
    records := [record 1 0 7 .pending, record 2 0 6 .dropped, record 3 0 3 .pending,
      record 4 1 2 .pending] }

/-- It is recovered; then the first account has 7 pending above a hole, and the second one 2. -/
theorem smallWorld_rebuilt :
    let ts := List.replicate 22 ⟨0⟩
    (smallWorld.records.map (·.hash)).Nodup ∧
      (∀ r ∈ smallWorld.records, r.isLive = true → r.nonce < Ledger.lastNonce) ∧
      smallWorld.enough [⟨2⟩] ≤ ts.length ∧
      ∃ s, recoverIn {} smallWorld [⟨2⟩] {} ⟨0⟩ ts = (s, some (.ofValue (.counted 4))) ∧
        s.gateway.Recovered smallWorld [⟨2⟩] ∧
        s.gateway.snapshot? ⟨0⟩ ⟨0⟩ = some ⟨8, [7], 5, some 0⟩ ∧
        s.gateway.snapshot? ⟨0⟩ ⟨1⟩ = some ⟨3, [2], 0, some 0⟩ := by
  intro ts
  have hhash : (smallWorld.records.map (·.hash)).Nodup := by decide +kernel
  have hnonce : ∀ r ∈ smallWorld.records, r.isLive = true → r.nonce < Ledger.lastNonce := by
    decide
  have hts : smallWorld.enough [⟨2⟩] ≤ ts.length := by decide
  obtain ⟨s, hrun, hs, -⟩ := recovery_rebuilds {} smallWorld [⟨2⟩] hhash hnonce ⟨0⟩ hts
  have hfirst : (recoverIn {} smallWorld [⟨2⟩] {} ⟨0⟩ ts).1.gateway.snapshot? ⟨0⟩ ⟨0⟩ =
      some ⟨8, [7], 5, some 0⟩ := by
    decide +kernel
  have hsecond : (recoverIn {} smallWorld [⟨2⟩] {} ⟨0⟩ ts).1.gateway.snapshot? ⟨0⟩ ⟨1⟩ =
      some ⟨3, [2], 0, some 0⟩ := by
    decide +kernel
  rw [hrun] at hfirst hsecond
  exact ⟨hhash, hnonce, hts, s, hrun, hs, hfirst, hsecond⟩

end System

end TxGateway
