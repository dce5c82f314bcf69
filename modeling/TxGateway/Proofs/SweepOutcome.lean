import TxGateway.Proofs.Sweeping

/-!
# What a sweep comes to

When all polls of a sweep have ended, each live transaction has had its errands, once. What the
records, the ledgers and the store hold then, how often the chain was asked for what, and how many
transactions came to an outcome, is read off the records that there were at first.
-/

namespace TxGateway

/-- If each member of a list contributes at most one thing of a kind, as many are counted as there
are members that do. -/
theorem countP_flatMap_of_ite {α β : Type} {f : α → List β} {q : β → Bool} {q' : α → Bool}
    {as : List α} (h : ∀ a ∈ as, (f a).countP q = if q' a then 1 else 0) :
    (as.flatMap f).countP q = as.countP q' := by
  induction as with
  | nil => rfl
  | cons a as ih =>
      rw [List.flatMap_cons, List.countP_append, List.countP_cons, h a List.mem_cons_self,
        ih fun b hb => h b (List.mem_cons_of_mem a hb), Nat.add_comm]

theorem length_flatMap_le {α β : Type} {f : α → List β} {n : Nat} {as : List α}
    (h : ∀ a ∈ as, (f a).length ≤ n) : (as.flatMap f).length ≤ n * as.length := by
  induction as with
  | nil => exact Nat.zero_le _
  | cons a as ih =>
      rw [List.flatMap_cons, List.length_append, List.length_cons, Nat.mul_succ, Nat.add_comm]
      exact Nat.add_le_add (ih fun b hb => h b (List.mem_cons_of_mem a hb))
        (h a List.mem_cons_self)

/-- A live transaction is listed once, and no other one. -/
theorem Watchlist.countP_live {w : Watchlist} {h : TxHash} (q : TxHash → Bool) :
    w.live.countP (fun k => decide (k = h) && q k) =
      if (w.lookup? h).any Record.isLive && q h then 1 else 0 := by
  have hcount : w.live.count h = if h ∈ w.live then 1 else 0 := w.nodup_live.count
  have hmem : h ∈ w.live ↔ (w.lookup? h).any Record.isLive = true := by
    rw [mem_live, Option.any_eq_true]
  have hcongr : w.live.countP (fun k => decide (k = h) && q k) =
      w.live.countP fun k => decide (k = h) && q h := by
    apply List.countP_congr
    intro k _
    by_cases hk : k = h <;> simp [hk]
  rw [hcongr]
  cases q h with
  | false => simp
  | true =>
      simp only [Bool.and_true, ← hmem, ← hcount]
      rfl

namespace Errand

theorem count_map_query (q : Query) (es : List Errand) :
    (es.map query).count q = es.countP fun e => e.query = q := by
  rw [List.count, List.countP_map]
  rfl

/-- Only to store a record asks the store to take it. -/
theorem saveRecord_mem_map_query {r : Record} {es : List Errand} :
    .saveRecord r ∈ es.map query ↔ save r ∈ es := by
  rw [List.mem_map]
  constructor
  · rintro ⟨e, he, hquery⟩
    cases e with
    | save r' =>
        cases hquery
        exact he
    | _ => cases hquery
  · exact fun he => ⟨save r, he, rfl⟩

end Errand

namespace Tidings

variable {w : Tidings} {p : Policy} {now : Timestamp} {r : Record} {e : Errand} {h : TxHash}

theorem mem_plan : e ∈ w.plan p now r ↔ e = .receipt r.hash ∨
    (w.asksOn p now r = true ∧ e = .transaction r.hash) ∨ e ∈ followUps (w.polled p now r) := by
  rw [plan, List.mem_cons, List.mem_append]
  cases w.asksOn p now r <;> simp

theorem countP_isSave_plan : (w.plan p now r).countP Errand.isSave =
    if (w.polled p now r).status.isFinal then 1 else 0 := by
  rw [plan, List.countP_cons, List.countP_append, countP_isSave_followUps]
  cases w.asksOn p now r <;> simp [Errand.isSave]

/-- What follows a poll is not counted among the questions to the chain. -/
theorem countP_followUps_of_isOutward {q : Query} (hq : q.isOutward = true) :
    (followUps r).countP (fun e => e.query = q) = 0 := by
  rw [List.countP_eq_zero]
  intro e he heq
  rw [decide_eq_true_eq] at heq
  rw [← heq, not_isOutward_of_mem_followUps he] at hq
  cases hq

theorem countP_receipt_plan : (w.plan p now r).countP (fun e => e.query = .receipt h) =
    if r.hash = h then 1 else 0 := by
  rw [plan, List.countP_cons, List.countP_append, countP_followUps_of_isOutward rfl]
  cases w.asksOn p now r <;> simp [Errand.query]

theorem countP_transaction_plan : (w.plan p now r).countP (fun e => e.query = .transaction h) =
    if w.asksOn p now r = true ∧ r.hash = h then 1 else 0 := by
  rw [plan, List.countP_cons, List.countP_append, countP_followUps_of_isOutward rfl]
  cases w.asksOn p now r <;> simp [Errand.query]

end Tidings

/-- A transaction of an account with a nonce was live in a gateway and is dropped in a later one. -/
def Gateway.HasDropped (g₀ g : Gateway) (a : Address) (n : Nat) : Prop :=
  ∃ h r₀ r, g₀.watchlist.lookup? h = some r₀ ∧ r₀.isLive = true ∧
    g.watchlist.lookup? h = some r ∧ r.status = .dropped ∧ r.account = a ∧ r.nonce = n

section

variable {w : Tidings} {p : Policy} {now : Timestamp} {g₀ g : Gateway} {done : List Errand}
  {e : Errand}

theorem Settle.allAhead_begun (records : TxHash → Option Record) (hs : List TxHash) :
    allAhead w p now records ↑(hs.map (begun records)) =
      ↑(hs.flatMap fun h => (begun records h).ahead w p now records) := by
  rw [allAhead, Multiset.coe_bind, List.flatMap_map]

namespace Underway

theorem perm_done (hs : Underway w p now g₀ g 0 done) :
    done.Perm (g₀.watchlist.live.flatMap fun h =>
      (Settle.begun g₀.watchlist.lookup? h).ahead w p now g₀.watchlist.lookup?) := by
  have hall := hs.ahead_eq
  rw [Settle.allAhead_begun, Settle.allAhead, Multiset.zero_bind, add_zero] at hall
  exact Multiset.coe_eq_coe.mp hall

theorem ahead_begun {h : TxHash} {r : Record} (hr : g₀.watchlist.lookup? h = some r) :
    (Settle.begun g₀.watchlist.lookup? h).ahead w p now g₀.watchlist.lookup? =
      w.plan p now r := by
  simp only [Settle.begun, Settle.ahead, hr]

/-- No more than five errands are done for a live transaction. -/
theorem length_le {polls : Multiset Settle} (hs : Underway w p now g₀ g polls done) :
    done.length ≤ 5 * g₀.watchlist.live.length := by
  calc
    done.length ≤ (↑done + Settle.allAhead w p now g₀.watchlist.lookup? polls).card := by
      rw [Multiset.card_add, Multiset.coe_card]
      exact Nat.le_add_right _ _
    _ = (g₀.watchlist.live.flatMap fun h =>
        (Settle.begun g₀.watchlist.lookup? h).ahead w p now g₀.watchlist.lookup?).length := by
      rw [hs.ahead_eq, Settle.allAhead_begun, Multiset.coe_card]
    _ ≤ 5 * g₀.watchlist.live.length := by
      apply length_flatMap_le
      intro h hh
      obtain ⟨r, hr, -⟩ := Watchlist.mem_live.mp hh
      rw [ahead_begun hr]
      exact Tidings.length_plan_le

theorem mem_done (hs : Underway w p now g₀ g 0 done) : e ∈ done ↔
    ∃ h r, g₀.watchlist.lookup? h = some r ∧ r.isLive = true ∧ e ∈ w.plan p now r := by
  rw [hs.perm_done.mem_iff, List.mem_flatMap]
  constructor
  · rintro ⟨h, hh, he⟩
    obtain ⟨r, hr, hlive⟩ := Watchlist.mem_live.mp hh
    rw [ahead_begun hr] at he
    exact ⟨h, r, hr, hlive, he⟩
  · rintro ⟨h, r, hr, hlive, he⟩
    refine ⟨h, Watchlist.mem_live.mpr ⟨r, hr, hlive⟩, ?_⟩
    rwa [ahead_begun hr]

/-- To count errands it is enough to know for which live transactions there is one. -/
theorem countP_done (hs : Underway w p now g₀ g 0 done) {q : Errand → Bool}
    (q' : TxHash → Bool) (hq : ∀ h r, g₀.watchlist.lookup? h = some r → r.isLive = true →
      (w.plan p now r).countP q = if q' h then 1 else 0) :
    done.countP q = g₀.watchlist.live.countP q' := by
  rw [hs.perm_done.countP_eq]
  apply countP_flatMap_of_ite
  intro h hh
  obtain ⟨r, hr, hlive⟩ := Watchlist.mem_live.mp hh
  rw [ahead_begun hr]
  exact hq h r hr hlive

/-- Each live record is as the chain tells, and the others are as they were. -/
theorem lookup?_eq (hs : Underway w p now g₀ g 0 done) (h : TxHash) :
    g.watchlist.lookup? h = (g₀.watchlist.lookup? h).map fun r =>
      if r.isLive then w.polled p now r else r := by
  by_cases hh : h ∈ g₀.watchlist.live
  · rw [hs.settled h hh (Multiset.notMem_zero h)]
    obtain ⟨r, hr, hlive⟩ := Watchlist.mem_live.mp hh
    simp only [hr, Option.map_some, hlive, if_true]
  · rw [hs.others h hh]
    cases hr : g₀.watchlist.lookup? h with
    | none => rfl
    | some r =>
        have hfinal : ¬ r.isLive = true := fun hlive => hh (Watchlist.mem_live.mpr ⟨r, hr, hlive⟩)
        simp only [Option.map_some, hfinal, Bool.false_eq_true, if_false]

theorem hasDropped_iff (hs : Underway w p now g₀ g 0 done) {a : Address} {n : Nat} :
    g₀.HasDropped g a n ↔ ∃ h r, g₀.watchlist.lookup? h = some r ∧ r.isLive = true ∧
      (w.polled p now r).status = .dropped ∧ r.account = a ∧ r.nonce = n := by
  constructor
  · rintro ⟨h, r₀, r, hr₀, hlive, hr, hstatus, haccount, hnonce⟩
    rw [hs.lookup?_eq, hr₀, Option.map_some, if_pos hlive] at hr
    cases hr
    rw [Tidings.account_polled] at haccount
    rw [Tidings.nonce_polled] at hnonce
    exact ⟨h, r₀, hr₀, hlive, hstatus, haccount, hnonce⟩
  · rintro ⟨h, r, hr, hlive, hstatus, haccount, hnonce⟩
    refine ⟨h, r, w.polled p now r, hr, hlive, ?_, hstatus, ?_, ?_⟩
    · rw [hs.lookup?_eq, hr, Option.map_some, if_pos hlive]
    · rwa [Tidings.account_polled]
    · rwa [Tidings.nonce_polled]

/-- Each ledger is relieved of the nonces whose transactions have been dropped. -/
theorem relieved (hs : Underway w p now g₀ g 0 done) (hordered : ∀ a, (g₀.ledger a).Ordered)
    (a : Address) : Option.Rel (fun l t => l.Relieved (g₀.HasDropped g a) t)
      (g₀.ledgers.get? a) (g.ledgers.get? a) := by
  rw [hs.ledgers a]
  cases hget : g₀.ledgers.get? a with
  | none => exact .none
  | some l =>
      have hl : l.Ordered := g₀.ledger_of_get? a hget ▸ hordered a
      refine .some ((Ledger.relievedBy_foldl hl.ascending a done).relieved (fun n => ?_) ?_)
      · rw [hs.mem_done, hs.hasDropped_iff]
        simp only [Tidings.mem_plan, reduceCtorEq, false_or, and_false,
          Tidings.mem_followUps_giveBack, Tidings.account_polled, Tidings.nonce_polled]
      · simp only [hs.mem_done, hs.hasDropped_iff, Tidings.mem_plan, reduceCtorEq, false_or,
          and_false, Tidings.mem_followUps_expire, Tidings.account_polled]
        constructor
        · rintro ⟨h, r, hr, hlive, hstatus, haccount⟩
          exact ⟨r.nonce, h, r, hr, hlive, hstatus, haccount, rfl⟩
        · rintro ⟨n, h, r, hr, hlive, hstatus, haccount, -⟩
          exact ⟨h, r, hr, hlive, hstatus, haccount⟩

/-- As many records were to be stored as came to an outcome. -/
theorem countP_isSave (hs : Underway w p now g₀ g 0 done) :
    done.countP Errand.isSave = g₀.watchlist.live.countP fun h =>
      (g.watchlist.lookup? h).any (·.status.isFinal) := by
  apply hs.countP_done
  intro h r hr hlive
  rw [Tidings.countP_isSave_plan, hs.lookup?_eq, hr, Option.map_some, if_pos hlive, Option.any_some]

/-- The receipt of each live transaction has been asked for once, and no other one. -/
theorem count_receipt (hs : Underway w p now g₀ g 0 done) (hkeyed : g₀.watchlist.Keyed)
    (h : TxHash) : (done.map Errand.query).count (.receipt h) =
      if (g₀.watchlist.lookup? h).any Record.isLive then 1 else 0 := by
  rw [Errand.count_map_query, hs.countP_done fun k => decide (k = h) && true, Watchlist.countP_live]
  · simp
  · intro k r hr hlive
    simp [Tidings.countP_receipt_plan, hkeyed k r hr]

/-- A transaction itself has been asked for, once, where its receipt left something open. -/
theorem count_transaction (hs : Underway w p now g₀ g 0 done) (hkeyed : g₀.watchlist.Keyed)
    (h : TxHash) : (done.map Errand.query).count (.transaction h) =
      if (g₀.watchlist.lookup? h).any fun r => r.isLive && w.asksOn p now r then 1 else 0 := by
  rw [Errand.count_map_query, hs.countP_done fun k => decide (k = h) &&
    (g₀.watchlist.lookup? k).any (w.asksOn p now), Watchlist.countP_live]
  · cases g₀.watchlist.lookup? h <;> simp
  · intro k r hr hlive
    simp [Tidings.countP_transaction_plan, hkeyed k r hr, hr, and_comm]

/-- Nothing else has been asked of the chain. -/
theorem asked_of_isOutward (hs : Underway w p now g₀ g 0 done) {q : Query}
    (hq : q ∈ done.map Errand.query) (houtward : q.isOutward = true) :
    ∃ h, q = .receipt h ∨ q = .transaction h := by
  obtain ⟨e, he, rfl⟩ := List.mem_map.mp hq
  obtain ⟨h, r, -, -, hplan⟩ := hs.mem_done.mp he
  rcases Tidings.mem_plan.mp hplan with rfl | ⟨-, rfl⟩ | hfollows
  · exact ⟨r.hash, .inl rfl⟩
  · exact ⟨r.hash, .inr rfl⟩
  · rw [Tidings.not_isOutward_of_mem_followUps hfollows] at houtward
    cases houtward

/-- The records to be stored are those that have become final. -/
theorem save_mem_done (hs : Underway w p now g₀ g 0 done) {r' : Record} : .save r' ∈ done ↔
    ∃ h r, g₀.watchlist.lookup? h = some r ∧ r.isLive = true ∧
      (w.polled p now r).status.isFinal = true ∧ r' = w.polled p now r := by
  simp only [hs.mem_done, Tidings.mem_plan, reduceCtorEq, false_or, and_false,
    Tidings.mem_followUps_save]

/-- The store holds the records that have become final, if it has taken them. -/
theorem stored (hs : Underway w p now g₀ g 0 done) (hkeyed : g₀.watchlist.Keyed)
    (store : Table TxHash Record) (h : TxHash) :
    ((done.map Errand.query).foldl w.take store).get? h =
      if (g₀.watchlist.lookup? h).any Record.isLive &&
          (g.watchlist.lookup? h).any (·.status.isFinal) && (w.fault? h).isNone then
        g.watchlist.lookup? h
      else store.get? h := by
  have hsave : ∀ r', .saveRecord r' ∈ done.map Errand.query → r'.hash = h →
      ∃ r, g₀.watchlist.lookup? h = some r ∧ r.isLive = true ∧
        (w.polled p now r).status.isFinal = true ∧ r' = w.polled p now r := by
    intro r' hr' hh
    rw [Errand.saveRecord_mem_map_query, hs.save_mem_done] at hr'
    obtain ⟨k, r, hr, hlive, hfinal, rfl⟩ := hr'
    rw [Tidings.hash_polled, hkeyed k r hr] at hh
    subst hh
    exact ⟨r, hr, hlive, hfinal, rfl⟩
  have hlookup := hs.lookup?_eq h
  split
  · rename_i hall
    simp only [Bool.and_eq_true, Option.any_eq_true, Option.isNone_iff_eq_none] at hall
    obtain ⟨⟨⟨r, hr, hlive⟩, r', hr', hfinal⟩, hfault⟩ := hall
    rw [hr, Option.map_some, if_pos hlive] at hlookup
    obtain rfl : w.polled p now r = r' := Option.some.inj (hlookup.symm.trans hr')
    rw [hlookup]
    refine Tidings.get?_foldl_take_of_taken ?_ ?_ hfault fun r' hr' hh => ?_
    · rw [Errand.saveRecord_mem_map_query, hs.save_mem_done]
      exact ⟨h, r, hr, hlive, hfinal, rfl⟩
    · rw [Tidings.hash_polled, hkeyed h r hr]
    · obtain ⟨r₁, hr₁, -, -, rfl⟩ := hsave r' hr' hh
      cases hr.symm.trans hr₁
      rfl
  · rename_i hno
    apply Tidings.get?_foldl_take_of_untaken
    intro r' hr' hh hfault
    obtain ⟨r, hr, hlive, hfinal, rfl⟩ := hsave r' hr' hh
    rw [hr, Option.map_some, if_pos hlive] at hlookup
    simp [hr, hlive, hlookup, hfinal, hfault] at hno

end Underway

end

end TxGateway
