import TxGateway.Proofs.Restoring
import TxGateway.Proofs.Watching

/-!
# A recovery reserves the nonces of what it restores

While a recovery goes on, alone in a fresh gateway, the nonce of every live record of an account
that it has taken in cannot be handed out, but for the one that it claims just then. So when it
returns no live record of the account is without its nonce, whatever the store holds and whatever
counts the chain tells, as long as the greatest nonce is not pending for the account.
-/

namespace TxGateway

namespace Watchlist

variable {w w' : Watchlist} {r : Record}

/-- Every record stands under its own hash. -/
def Keyed (w : Watchlist) : Prop := ∀ h r, w.lookup? h = some r → r.hash = h

theorem keyed_empty : Keyed {} := fun _ _ hr => by cases hr

/-- A record that is set under its own hash keeps the others where they are. -/
theorem Keyed.of_lookup? (hw : w.Keyed)
    (h : ∀ k, w'.lookup? k = if k = r.hash then some r else w.lookup? k) : w'.Keyed := by
  intro k r' hr'
  rw [h] at hr'
  split at hr'
  · rename_i hk
    cases hr'
    exact hk.symm
  · exact hw k r' hr'

theorem Keyed.restore (hw : w.Keyed) (r : Record) : (w.restore r).Keyed :=
  hw.of_lookup? (w.lookup?_restore r)

theorem Keyed.enter (hw : w.Keyed) (he : w.enter r = .ok w') : w'.Keyed :=
  hw.of_lookup? (lookup?_of_enter he).2

theorem Keyed.polled (hw : w.Keyed) {h : TxHash} {now : Timestamp} {status : Status}
    {o : Observation} (hp : w.polled? h now status = some (w', o)) : w'.Keyed := by
  obtain ⟨r, hr, -, -, hrecord, -⟩ := polled?_eq_some hp
  have hhash : o.record.hash = h := by
    rw [hrecord]
    exact hw h r hr
  refine hw.of_lookup? (r := o.record) fun k => ?_
  rw [lookup?_of_polled hp, hhash]

theorem Keyed.purge (hw : w.Keyed) (cutoff : Timestamp) : (w.purge cutoff).Keyed := by
  intro k r hr
  rw [lookup?_purge, Option.filter_eq_some_iff] at hr
  exact hw k r hr.1

end Watchlist

theorem Move.keyed {g g' : Gateway} {t : Option (Address × Turn)} {mine mine' : Multiset Token}
    (hmove : Move g g' t mine mine') (h : g.watchlist.Keyed) : g'.watchlist.Keyed := by
  cases hmove with
  | keep steady turn le => exact steady.watchlist_eq ▸ h
  | grant steady turn got => exact steady.watchlist_eq ▸ h
  | back steady turn => exact steady.watchlist_eq ▸ h
  | issue watchlist_eq issued_eq turn => exact watchlist_eq ▸ h
  | enter entered issued_eq turn => exact h.enter entered
  | poll polled issued_eq turn le => exact h.polled polled
  | purge purged issued_eq turn => exact purged ▸ h.purge _

namespace Gateway

variable {g g' : Gateway} {a : Address} {n : Nat} {owed : Option (Address × Nat)}

/-- The nonces of live records of an account cannot be handed out, but for one that is still to be
claimed. -/
structure Reserves (g : Gateway) (a : Address) (owed : Option (Address × Nat)) : Prop where
  /-- Records stand under their own hashes. -/
  keyed : g.watchlist.Keyed
  /-- The nonces of live records are secured. -/
  secures : ∀ h r, g.watchlist.lookup? h = some r → r.isLive = true → r.account = a →
    owed = some (a, r.nonce) ∨ (g.ledger a).book.Secures r.nonce

/-- As long as no record is touched, a ledger that secures more does no harm. -/
theorem Reserves.of_secures (h : g.Reserves a owed) (hw : g'.watchlist = g.watchlist)
    (hs : ∀ n, (g.ledger a).book.Secures n → (g'.ledger a).book.Secures n) :
    g'.Reserves a owed := by
  constructor
  · rw [hw]
    exact h.keyed
  · rw [hw]
    intro k r hr hlive hra
    exact (h.secures k r hr hlive hra).imp_right (hs r.nonce)

/-- A turn at a ledger keeps what is secured, unless it gives a nonce back. -/
theorem secures_afterTurn {t : Option (Address × Turn)} (hk : (g.ledger a).Kept)
    (hn : (g.ledger a).book.Secures n) (ht : t ≠ some (a, .giveBack n)) (now : Timestamp) :
    (g.afterTurn now t a).book.Secures n := by
  cases t with
  | none => exact hn
  | some t =>
      obtain ⟨b, t⟩ := t
      rw [afterTurn_some]
      split
      · rename_i hab
        subst hab
        rw [hk.book_turn now t]
        refine hn.take _ fun heq => absurd ?_ ht
        rw [heq]
      · exact hn

/-- When a named nonce has been asked for and the ledger has answered, the nonce is secured: it has
been handed out, or it was taken. -/
theorem secures_of_obtain {result : Except Failure Nat} (hk : (g.ledger a).Kept)
    (hgot : g.obtain a (.named n) = (g', some result)) : (g'.ledger a).book.Secures n := by
  have hbook := (keeps_obtain hk (.named n)).book_eq
  rw [hgot] at hbook
  cases hs : (g.ledger a).seeded with
  | false => simp [obtain, hs] at hgot
  | true =>
      simp only [hbook, Book.take, hs, true_and]
      split
      · exact .inl (Finset.mem_insert_self _ _)
      · rename_i htaken
        exact not_not.mp fun hno => htaken ((Book.not_secures_iff _ _).mp hno)

end Gateway

/-- Whether an answer is no refusal of a ledger. -/
def Reply.IsForeign (r : Reply) : Prop := ∀ a n reason, r ≠ .failed (.nonceTaken a n reason)

theorem Obtain.secures_of_ended {o : Obtain} {a : Address} {n : Nat} {now : Timestamp}
    {g g' : Gateway} {reply : Reply} {result : Except Failure Nat} (hk : (g.ledger a).Kept)
    (hreply : reply.IsForeign) (h : o.resume a (.named n) now g reply = (g', .ended result))
    (hresult : ∀ e, result = .error e → ∃ b k reason, e = .nonceTaken b k reason) :
    (g'.ledger a).book.Secures n := by
  cases o with
  | turn =>
      cases reply with
      | done =>
          simp only [resume] at h
          split at h
          · rename_i g₁ result' hgot
            cases h
            exact Gateway.secures_of_obtain hk hgot
          · cases h
      | _ => cases h
  | seeding r =>
      -- Bringing the ledger up to date ends the call only with a failure from outside.
      cases r with
      | asking =>
          cases reply with
          | failed e =>
              cases h
              obtain ⟨b, k, reason, rfl⟩ := hresult e rfl
              exact absurd rfl (hreply b k reason)
          | _ => cases h
      | applying count => cases reply <;> cases h

namespace Recover

variable {g : Gateway} {a : Address}

/-- The nonce that a recovery claims. -/
def claims? : Recover → Option (Address × Nat)
  | claiming r _ _ _ => some (r.account, r.nonce)
  | _ => none

/-- What has been taken in when a recovery waits or returns is reserved. -/
def Leaves (a : Address) : Gateway × Progress Recover (Except Failure Nat) → Prop
  | (g, .waiting c) => g.Reserves a c.claims?
  | (g, .ended (.ok _)) => g.Reserves a none
  | (_, .ended (.error _)) => True

theorem claims?_nextAccount (as : List Address) : (nextAccount as).claims? = none := by
  cases as <;> rfl

theorem leaves_takeIn (h : g.Reserves a none) (total : Nat) (rs : List Record) :
    Leaves a (takeIn total g rs) := by
  induction rs generalizing g with
  | nil => exact h
  | cons r rs ih =>
      have hkeyed : (g.restore r).watchlist.Keyed := h.keyed.restore r
      -- A record that is there afterwards is the new one, or its nonce was secured before.
      have hsecures : ∀ k r', (g.restore r).watchlist.lookup? k = some r' → r'.isLive = true →
          r'.account = a → r' = r ∨ (g.ledger a).book.Secures r'.nonce := by
        intro k r' hr' hlive hra
        rw [Gateway.restore, Watchlist.lookup?_restore] at hr'
        split at hr'
        · cases hr'
          exact .inl rfl
        · exact (h.secures k r' hr' hlive hra).imp (fun hno => by cases hno) id
      simp only [takeIn]
      split
      · have hsame := ((g.restore r).spares_ensureLedger r.account).watchlist_eq
        constructor
        · rw [Obtain.start, hsame]
          exact hkeyed
        · intro k r' hr' hlive hra
          rw [Obtain.start, hsame] at hr'
          rw [Obtain.start, Gateway.ledger_ensureLedger]
          refine (hsecures k r' hr' hlive hra).imp_left ?_
          rintro rfl
          rw [← hra]
          rfl
      · rename_i hfinal
        refine ih ⟨hkeyed, fun k r' hr' hlive hra => .inr ?_⟩
        refine (hsecures k r' hr' hlive hra).resolve_left ?_
        rintro rfl
        exact hfinal hlive

/-- A step of a recovery keeps what is reserved. -/
theorem leaves_resume {c : Recover} {reply : Reply} (hk : (g.ledger a).Kept)
    (hreply : reply.IsForeign) (h : g.Reserves a c.claims?) (now : Timestamp) :
    Leaves a (c.resume now g reply) := by
  cases c with
  | listing held =>
      cases reply with
      | accounts as =>
          simp only [resume, Leaves, claims?_nextAccount]
          exact h
      | failed e => trivial
      | _ => exact h
  | reconciling b r rest =>
      have hafter : (r.resume b now g reply).1.Reserves a none := by
        refine h.of_secures (r.steady_resume b now g reply).watchlist_eq fun n hn => ?_
        rw [r.ledger_resume]
        exact Gateway.secures_afterTurn hk hn (r.turn?_ne b a n reply) now
      simp only [resume]
      split <;> rename_i hstep <;> rw [hstep] at hafter
      · exact hafter
      · simp only [Leaves, claims?_nextAccount]
        exact hafter
      · trivial
  | loading =>
      cases reply with
      | records rs => exact leaves_takeIn h rs.length rs
      | failed e => trivial
      | _ => exact h
  | claiming r o rest total =>
      have hafter : (o.resume r.account (.named r.nonce) now g reply).1.Reserves a
          (some (r.account, r.nonce)) := by
        refine h.of_secures (o.steady_resume _ _ now g reply).watchlist_eq fun n hn => ?_
        rw [o.ledger_resume]
        exact Gateway.secures_afterTurn hk hn (o.turn?_ne _ a _ n reply) now
      -- Once the claim has been answered by the ledger, its nonce is secured too.
      have hclaimed : ∀ {g' result},
          o.resume r.account (.named r.nonce) now g reply = (g', .ended result) →
          (∀ e, result = .error e → ∃ b k reason, e = .nonceTaken b k reason) →
          g'.Reserves a none := by
        intro g' result hstep hresult
        rw [hstep] at hafter
        refine ⟨hafter.keyed, fun k r' hr' hlive hra => .inr ?_⟩
        rcases hafter.secures k r' hr' hlive hra with howed | hwas
        · obtain ⟨rfl, hnonce⟩ := Prod.mk.inj (Option.some.inj howed)
          exact hnonce ▸ Obtain.secures_of_ended hk hreply hstep hresult
        · exact hwas
      simp only [resume]
      split <;> rename_i hstep
      · rw [hstep] at hafter
        exact hafter
      · exact leaves_takeIn (hclaimed hstep fun e he => by cases he) total rest
      · refine leaves_takeIn (hclaimed hstep fun e he => ?_) total rest
        cases he
        exact ⟨_, _, _, rfl⟩
      · trivial

end Recover

namespace System

variable {p : Policy} {s : System} {c : Recover} {a : Address}

/-- A recovery is the only call in progress. -/
structure Recovering (a : Address) (c : Recover) (s : System) : Prop where
  /-- It is in progress. -/
  get?_eq : s.calls.get? 0 = some (.recover c)
  /-- No other call is. -/
  alone : ∀ i, i ≠ 0 → s.calls.get? i = none
  /-- What it has taken in of an account is reserved. -/
  reserves : s.gateway.Reserves a c.claims?

/-- A recovery has returned, and no call is in progress. -/
structure Recovered (a : Address) (s : System) : Prop where
  /-- No call is in progress. -/
  quiet : ∀ i, s.calls.get? i = none
  /-- What has been taken in of an account is reserved. -/
  reserves : s.gateway.Reserves a none

theorem recovering_start (p : Policy) (now : Timestamp) (a : Address) (held : List Address) :
    Recovering a (.listing held) (({} : System).start p now (.recover held)).1 where
  get?_eq := rfl
  alone := by
    intro i hi
    simp [start, Call.start, enroll, Table.get?_set, hi]
  reserves := ⟨Watchlist.keyed_empty, fun _ _ hr => by cases hr⟩

/-- With each answer a recovery goes on, or it comes to its end. -/
theorem Recovering.reply (h : Recovering a c s) (hk : (s.gateway.ledger a).Kept)
    {r : Reply} (hr : r.IsForeign) (now : Timestamp) (slot : Nat) :
    (∃ c', Recovering a c' (s.reply p now 0 slot r).1 ∧ (s.reply p now 0 slot r).2.ending = none) ∨
      Gone 0 (s.reply p now 0 slot r).1 ∧
        (∀ total, (s.reply p now 0 slot r).2.ending = some (.ofValue (.counted total)) →
          Recovered a (s.reply p now 0 slot r).1) := by
  have hwaits : ∀ g' c', g'.Reserves a c'.claims? →
      Recovering a c' { s with gateway := g', calls := s.calls.set 0 (.recover c') } := by
    intro g' c' hreserves
    refine ⟨by simp, fun i hi => ?_, hreserves⟩
    simpa [Table.get?_set, hi] using h.alone i hi
  have hquiet : ∀ i, (s.calls.erase 0).get? i = none := by
    intro i
    rw [Table.get?_erase]
    split
    · rfl
    · exact h.alone i ‹_›
  by_cases hcrash : ∃ crash, r = .crashed crash
  · obtain ⟨crash, rfl⟩ := hcrash
    by_cases hout : (Call.recover c).looksOutward slot = true
    · simp only [System.reply, h.get?_eq, Call.resume, if_pos hout]
      refine .inr ⟨?_, fun total hend => by cases hend⟩
      simp only [Gone, abandon, h.get?_eq, Call.abandon, enrollChores]
      exact hquiet 0
    · simp only [System.reply, h.get?_eq, Call.resume, if_neg hout]
      exact .inl ⟨c, hwaits s.gateway c h.reserves, trivial⟩
  · have hresume : (Call.recover c).resume p now s.gateway slot r =
        (Call.recover c).proceed p now s.gateway slot r := by
      cases r with
      | crashed crash => exact absurd ⟨crash, rfl⟩ hcrash
      | _ => rfl
    have hleaves := Recover.leaves_resume hk hr h.reserves now
    simp only [System.reply, h.get?_eq, hresume, Call.proceed]
    cases hx : c.resume now s.gateway r with
    | mk g' x =>
        rw [hx] at hleaves
        cases x with
        | waiting c' => exact .inl ⟨c', hwaits g' c' hleaves, rfl⟩
        | ended result =>
            refine .inr ⟨hquiet 0, fun total hend => ?_⟩
            cases result with
            | ok n => exact ⟨hquiet, hleaves⟩
            | error e => cases hend

/-- A run that begins with a recovery: it is set going in a fresh gateway, gets its answers, and
returns, before anything else happens. Afterwards only orderly tasks are set going. -/
structure RecoversFirst (p : Policy) (ms : List Moment) (e : Nat) : Prop where
  /-- The recovery is set going first. -/
  starts : ∃ now held, ms[0]? = some ⟨now, .event (.start (.recover held))⟩
  /-- Then it gets its answers. -/
  answers : ∀ m ∈ ms.tail.take e, ∃ slot r, m.what = .event (.reply 0 slot r) ∧ r.IsForeign
  /-- With the last of them it returns the number of stored records. -/
  returns : ∃ now slot r total, ms[e]? = some ⟨now, .event (.reply 0 slot r)⟩ ∧
    ((upTo p ms e).reply p now 0 slot r).2.ending = some (.ofValue (.counted total))
  /-- Nothing is recovered again, and no nonce is given back that may be in other hands. -/
  orderly : ∀ m ∈ ms.drop (e + 1), m.IsOrderly

namespace RecoversFirst

variable {ms : List Moment} {e k : Nat} {m : Moment}

theorem answers_at (h : RecoversFirst p ms e) (hk : 0 < k) (hke : k ≤ e) (hm : ms[k]? = some m) :
    ∃ slot r, m.what = .event (.reply 0 slot r) ∧ r.IsForeign := by
  apply h.answers
  apply List.mem_of_getElem? (i := k - 1)
  rw [List.getElem?_take_of_lt (by omega), List.getElem?_tail, Nat.sub_add_cancel hk, hm]

theorem orderly_at (h : RecoversFirst p ms e) (hek : e < k) (hm : ms[k]? = some m) :
    m.IsOrderly := by
  apply h.orderly
  apply List.mem_of_getElem? (i := k - (e + 1))
  rw [List.getElem?_drop, Nat.add_sub_cancel' hek, hm]

/-- Whatever the store holds, its live records are reserved when the recovery returns. -/
theorem recovered (h : RecoversFirst p ms e) (hroom : LeavesRoom p ms a) :
    Recovered a (upTo p ms (e + 1)) := by
  obtain ⟨now₀, held, hfirst⟩ := h.starts
  obtain ⟨now, slot, r, total, hlast, hend⟩ := h.returns
  have hpos : 1 ≤ e := by
    refine Nat.one_le_iff_ne_zero.mpr fun hzero => ?_
    rw [hzero, hfirst] at hlast
    cases hlast
  have hphase : (∃ c, Recovering a c (upTo p ms e)) ∨ Gone 0 (upTo p ms e) := by
    apply upTo_induction (P := fun _ s => (∃ c, Recovering a c s) ∨ Gone 0 s) hpos (le_length hlast)
    · rw [upTo_succ hfirst]
      exact .inl ⟨_, recovering_start p now₀ a held⟩
    · intro k m hk hke hm hbefore
      obtain ⟨slot, r, hwhat, hr⟩ := h.answers_at hk (Nat.le_of_lt hke) hm
      obtain ⟨now, what⟩ := m
      cases hwhat
      rcases hbefore with ⟨c, hc⟩ | hgone
      · exact (hc.reply (hroom.kept k) hr now slot).imp (fun ⟨c', hc', _⟩ => ⟨c', hc'⟩) And.left
      · refine .inr ?_
        simp only [pass, step, System.reply, show (upTo p ms k).calls.get? 0 = none from hgone]
        exact hgone
  rw [upTo_succ hlast]
  rcases hphase with ⟨c, hc⟩ | hgone
  · obtain ⟨slot', r', hwhat, hr⟩ := h.answers_at hpos le_rfl hlast
    cases hwhat
    rcases hc.reply (p := p) (hroom.kept e) hr now slot with
      ⟨c', -, hnone⟩ | ⟨-, hreturned⟩
    · rw [hnone] at hend
      cases hend
    · exact hreturned total hend
  · simp only [System.reply, show (upTo p ms e).calls.get? 0 = none from hgone] at hend
    cases hend

end RecoversFirst

end System

end TxGateway
