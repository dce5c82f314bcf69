import TxGateway.Proofs.HolderIndex
import TxGateway.Proofs.Relief
import Mathlib.Data.Multiset.Bind

/-!
# A sweep does the errands of all its polls

The polls of a sweep, those that have not begun among them, are looked at as a multiset: beginning
a poll changes nothing in it. Whichever poll goes on, one errand is done, and between them the polls
have ahead what is left. Each record is as it was when the sweep began as long as it is due, and as
the chain tells from then on. At the end all errands of all polls have been done, in some order.
-/

namespace TxGateway

namespace Watchlist

variable {w : Watchlist} {h : TxHash}

theorem live_eq (w : Watchlist) :
    w.live = (w.records.entries.filter fun e => e.2.isLive).map Prod.fst := by
  rw [live]
  induction w.records.entries with
  | nil => rfl
  | cons e es ih => cases he : e.2.isLive <;> simp [he, ih]

theorem nodup_live (w : Watchlist) : w.live.Nodup := by
  rw [live_eq]
  exact w.records.nodup.sublist (List.filter_sublist.map _)

theorem mem_live : h ∈ w.live ↔ ∃ r, w.lookup? h = some r ∧ r.isLive = true := by
  simp only [live_eq, List.mem_map, List.mem_filter]
  constructor
  · rintro ⟨⟨h, r⟩, ⟨hmem, hlive⟩, rfl⟩
    exact ⟨r, Entries.get?_of_mem w.records.nodup hmem, hlive⟩
  · rintro ⟨r, hr, hlive⟩
    exact ⟨(h, r), ⟨Entries.mem_of_get? hr, hlive⟩, rfl⟩

end Watchlist

/-- A poll that begins while its record is as it was. -/
def Settle.begun (records : TxHash → Option Record) (h : TxHash) : Settle :=
  .polling ⟨h, (records h).elim ⟨0⟩ (·.submittedAt), .receipt⟩

/-- The polls of a sweep, those that have not begun among them. -/
def Sweep.polls (records : TxHash → Option Record) (s : Sweep) : Multiset Settle :=
  ↑(s.waiting.map (Settle.begun records)) + Entries.tally (fun c => {c}) s.running

/-- What is left of a poll after an answer. -/
def Progress.left {σ α : Type} : Progress σ α → Multiset σ
  | waiting c => {c}
  | ended _ => 0

/-- Whether a poll has ended and has made its transaction final. -/
def Progress.hasSettled : Progress Settle (Except Failure Watchlist.Observation) → Bool
  | waiting _ => false
  | ended result => Sweep.hasSettled result

/-- The transactions that some polls have not settled yet. -/
def Settle.allDue (polls : Multiset Settle) : Multiset TxHash := polls.filterMap Settle.due

section

variable (w : Tidings) (p : Policy) (now : Timestamp) (records : TxHash → Option Record)

/-- The errands that some polls have ahead of them. -/
def Settle.allAhead (polls : Multiset Settle) : Multiset Errand :=
  polls.bind fun c => ↑(c.ahead w p now records)

end

/-- What some polls of the live transactions of a gateway have made of it by the errands that they
have done. -/
structure Underway (w : Tidings) (p : Policy) (now : Timestamp) (g₀ g : Gateway)
    (polls : Multiset Settle) (done : List Errand) : Prop where
  /-- The polls have got as far as the chain tells. -/
  fits : ∀ c ∈ polls, c.Fits w p now g₀.watchlist.lookup?
  /-- What has been done and what is ahead are the errands of all live transactions. -/
  ahead_eq : ↑done + Settle.allAhead w p now g₀.watchlist.lookup? polls =
    Settle.allAhead w p now g₀.watchlist.lookup?
      ↑(g₀.watchlist.live.map (Settle.begun g₀.watchlist.lookup?))
  /-- No transaction is due for two polls. -/
  nodup : (Settle.allDue polls).Nodup
  /-- Only live transactions have been due. -/
  live : ∀ h ∈ Settle.allDue polls, h ∈ g₀.watchlist.live
  /-- A record is as it was as long as it is due. -/
  unsettled : ∀ h ∈ Settle.allDue polls, g.watchlist.lookup? h = g₀.watchlist.lookup? h
  /-- It is as the chain tells when it is settled. -/
  settled : ∀ h ∈ g₀.watchlist.live, h ∉ Settle.allDue polls →
    g.watchlist.lookup? h = (g₀.watchlist.lookup? h).map (w.polled p now)
  /-- Other records stay as they are. -/
  others : ∀ h, h ∉ g₀.watchlist.live → g.watchlist.lookup? h = g₀.watchlist.lookup? h
  /-- The same transactions use the same nonces. -/
  holders_eq : g.watchlist.holders = g₀.watchlist.holders
  /-- The errands that have been done have been done to the ledgers. -/
  ledgers : ∀ a, g.ledgers.get? a =
    (g₀.ledgers.get? a).map fun l => done.foldl (fun t e => e.onLedger a t) l

section

variable {w : Tidings} {p : Policy} {now : Timestamp} {records : TxHash → Option Record}
  {g₀ g : Gateway} {polls : Multiset Settle} {done : List Errand} {c : Settle} {h : TxHash}

namespace Settle

theorem mem_allDue : h ∈ allDue polls ↔ ∃ c ∈ polls, c.due = some h :=
  Multiset.mem_filterMap _ _

theorem allDue_add (polls polls' : Multiset Settle) :
    allDue (polls + polls') = allDue polls + allDue polls' :=
  Multiset.filterMap_add _ _ _

theorem allDue_singleton (c : Settle) : allDue {c} = ↑c.due.toList := by
  cases hc : c.due <;>
    simp [allDue, ← Multiset.cons_zero, Multiset.filterMap_cons_none, Multiset.filterMap_cons_some,
      hc]

theorem allDue_left {α : Type} (x : Progress Settle α) : allDue x.left = ↑x.due.toList := by
  cases x with
  | waiting c => exact allDue_singleton c
  | ended result => rfl

theorem allAhead_add (polls polls' : Multiset Settle) :
    allAhead w p now records (polls + polls') =
      allAhead w p now records polls + allAhead w p now records polls' :=
  Multiset.add_bind _ _ _

theorem allAhead_singleton (c : Settle) :
    allAhead w p now records {c} = c.ahead w p now records :=
  Multiset.singleton_bind _ _

theorem allDue_begun (records : TxHash → Option Record) (hs : List TxHash) :
    allDue ↑(hs.map (begun records)) = ↑hs := by
  have hsome : due ∘ begun records = some := rfl
  rw [allDue, Multiset.filterMap_coe, List.filterMap_map, hsome, List.filterMap_some]

/-- What a poll leaves of itself when it does an errand. -/
theorem Does.left {e : Errand} {rest : List Errand}
    {y : Gateway × Progress Settle (Except Failure Watchlist.Observation)}
    (hdoes : c.Does w p now records g e rest y) :
    (∀ c' ∈ y.2.left, c'.Fits w p now records) ∧ allAhead w p now records y.2.left = rest ∧
      (y.2.due = c.due ∨ y.2.due = none) ∧ y.2.hasSettled = e.isSave := by
  obtain ⟨g', x⟩ := y
  cases x with
  | waiting c' =>
      obtain ⟨hfits, hahead, hsave, hdue⟩ := hdoes.goes c' rfl
      refine ⟨fun c'' hc'' => ?_, ?_, hdue, hsave.symm⟩
      · rw [Multiset.mem_singleton.mp hc'']
        exact hfits
      · exact (allAhead_singleton c').trans (congrArg _ hahead)
  | ended result =>
      obtain ⟨hrest, hsettled⟩ := hdoes.ends result rfl
      refine ⟨fun c' hc' => absurd hc' (Multiset.notMem_zero c'), ?_, .inr rfl, hsettled⟩
      rw [hrest]
      rfl

end Settle

open Settle

/-- One poll goes on, and does its next errand. -/
theorem Underway.does (hs : Underway w p now g₀ g ({c} + polls) done) :
    ∃ e, e.query = c.query ∧
      Underway w p now g₀ (c.resume p now g (w.answer c.query)).1
        ((c.resume p now g (w.answer c.query)).2.left + polls) (done ++ [e]) ∧
      (c.resume p now g (w.answer c.query)).2.hasSettled = e.isSave := by
  have hmem : ∀ h, h ∈ allDue ({c} + polls) ↔ c.due = some h ∨ h ∈ allDue polls := by
    intro h
    rw [allDue_add, Multiset.mem_add, allDue_singleton, Multiset.mem_coe, Option.mem_toList]
  obtain ⟨e, rest, hahead, hquery, hdoes⟩ :=
    does_errand (hs.fits c (by simp)) fun h hh => hs.unsettled h ((hmem h).mpr (.inl hh))
  generalize c.resume p now g (w.answer c.query) = y at hdoes
  obtain ⟨hfits, hleft, hdue, hsettled⟩ := hdoes.left
  have hmem' : ∀ h, h ∈ allDue (y.2.left + polls) ↔ y.2.due = some h ∨ h ∈ allDue polls := by
    intro h
    rw [allDue_add, Multiset.mem_add, allDue_left, Multiset.mem_coe, Option.mem_toList]
  have hle : allDue (y.2.left + polls) ≤ allDue ({c} + polls) := by
    rw [allDue_add, allDue_add, allDue_left, allDue_singleton]
    rcases hdue with hdue | hdue <;> rw [hdue]
    exact add_le_add_left (Multiset.zero_le _) _
  -- What is due for this poll is due for no other one.
  have hown : ∀ h, c.due = some h → h ∉ allDue polls := by
    intro h hh
    have hnodup := hs.nodup
    rw [allDue_add, allDue_singleton, hh] at hnodup
    simpa using (Multiset.nodup_add.mp hnodup).2.2
  refine ⟨e, hquery, ⟨?_, ?_, ?_, ?_, ?_, ?_, ?_, ?_, ?_⟩, hsettled⟩
  · intro c' hc'
    rcases Multiset.mem_add.mp hc' with hc' | hc'
    · exact hfits c' hc'
    · exact hs.fits c' (Multiset.mem_add.mpr (.inr hc'))
  · have hall := hs.ahead_eq
    rw [allAhead_add, allAhead_singleton, hahead, ← Multiset.cons_coe] at hall
    rw [← hall, allAhead_add, hleft, ← Multiset.coe_add, Multiset.coe_singleton,
      ← Multiset.singleton_add, add_assoc, add_assoc]
  · exact Multiset.nodup_of_le hle hs.nodup
  · exact fun h hh => hs.live h (Multiset.mem_of_le hle hh)
  · intro h hh
    have hstill : c.due ≠ some h ∨ y.2.due = some h := by
      rcases (hmem' h).mp hh with hh | hh
      · exact .inr hh
      · exact .inl fun hc => hown h hc hh
    rw [hdoes.others h hstill]
    exact hs.unsettled h (Multiset.mem_of_le hle hh)
  · intro h hlive hh
    rw [hmem', not_or] at hh
    by_cases hc : c.due = some h
    · exact hdoes.settled h hc hh.1
    · rw [hdoes.others h (.inl hc)]
      exact hs.settled h hlive fun hbefore => ((hmem h).mp hbefore).elim hc hh.2
  · intro h hh
    have hc : c.due ≠ some h := fun hc => hh (hs.live h ((hmem h).mpr (.inl hc)))
    rw [hdoes.others h (.inl hc)]
    exact hs.others h hh
  · exact hdoes.holders.trans hs.holders_eq
  · intro a
    rw [hdoes.ledgers, hs.ledgers, Option.map_map]
    simp only [Function.comp_def, List.foldl_append, List.foldl_cons, List.foldl_nil]

namespace Sweep

/-- Where a sweep stands that has done some errands. -/
structure At (w : Tidings) (p : Policy) (now : Timestamp) (g₀ g : Gateway) (s : Sweep)
    (done : List Errand) : Prop where
  /-- The polls have numbers of their own. -/
  sound : s.Sound
  /-- The errands have been done. -/
  underway : Underway w p now g₀ g (s.polls g₀.watchlist.lookup?) done
  /-- As many transactions have been counted as records were to be stored. -/
  settled_eq : s.settled = done.countP Errand.isSave

/-- A sweep after some errands: some poll is going on, or all polls have ended and it tells how many
transactions came to an outcome. -/
def Reaches (w : Tidings) (p : Policy) (now : Timestamp) (g₀ : Gateway) (done : List Errand) :
    Gateway × Progress Sweep Nat → Prop
  | (g, .waiting s) => s.At w p now g₀ g done ∧ s.running ≠ []
  | (g, .ended n) => Underway w p now g₀ g 0 done ∧ n = done.countP Errand.isSave

variable {s : Sweep} {i begun settled : Nat} {running : List (Nat × Settle)} {hs : List TxHash}

/-- A poll of a live transaction begins. -/
theorem start_of_live {r : Record} (hr : records h = some r)
    (hget : g.watchlist.lookup? h = some r) (hlive : r.isLive = true) :
    Settle.start h g = .waiting (Settle.begun records h) := by
  simp only [Settle.start, Poll.start, hget, hlive, if_true, afterPoll, Settle.begun, hr,
    Option.elim_some]

/-- To begin polls changes nothing in which polls there are, and as long as some are left, some are
going on. -/
theorem polls_fill (hlive : ∀ h ∈ hs, ∃ r, records h = some r ∧
      g.watchlist.lookup? h = some r ∧ r.isLive = true) :
    (fill g running begun settled hs).polls records =
        (⟨hs, running, begun, settled⟩ : Sweep).polls records ∧
      (fill g running begun settled hs).settled = settled ∧
      ((fill g running begun settled hs).running = [] → hs = [] ∧ running = []) := by
  induction hs generalizing running begun with
  | nil => exact ⟨rfl, rfl, fun hnone => ⟨rfl, hnone⟩⟩
  | cons h hs ih =>
      obtain ⟨r, hr, hget, hrlive⟩ := hlive h List.mem_cons_self
      have hstart := start_of_live hr hget hrlive
      simp only [fill]
      split
      · rename_i hwide
        refine ⟨rfl, rfl, fun hnone => ?_⟩
        simp only at hnone
        rw [hnone] at hwide
        exact absurd hwide (by decide)
      · rw [hstart]
        obtain ⟨hpolls, hsettled, hnone⟩ := @ih (begun + 1)
          (running ++ [(begun, Settle.begun records h)])
          fun k hk => hlive k (List.mem_cons_of_mem _ hk)
        refine ⟨?_, hsettled, fun hempty => absurd (hnone hempty).2 (by simp)⟩
        rw [hpolls]
        simp only [polls, List.map_cons, ← Multiset.cons_coe, Entries.tally, List.map_append,
          List.sum_append, List.map_nil, List.sum_cons, List.sum_nil, add_zero,
          ← Multiset.singleton_add]
        ac_rfl

/-- A sweep that has lost a poll begins others, or ends. -/
theorem reaches_proceed (hsound : s.Sound)
    (hunderway : Underway w p now g₀ g (s.polls g₀.watchlist.lookup?) done)
    (hsettled : s.settled = done.countP Errand.isSave) :
    Reaches w p now g₀ done (g, proceed g s) := by
  have hlive : ∀ h ∈ s.waiting, ∃ r, g₀.watchlist.lookup? h = some r ∧
      g.watchlist.lookup? h = some r ∧ r.isLive = true := by
    intro h hh
    have hmem : Settle.begun g₀.watchlist.lookup? h ∈ s.polls g₀.watchlist.lookup? := by
      rw [polls, Multiset.mem_add, Multiset.mem_coe]
      exact .inl (List.mem_map_of_mem hh)
    have hsame := hunderway.unsettled h (mem_allDue.mpr ⟨_, hmem, rfl⟩)
    obtain ⟨r, hr, hpending, hstage⟩ := hunderway.fits _ hmem
    obtain rfl : h = r.hash := by
      rcases hstage with hstage | ⟨receipt, hstage, -⟩
      · exact congrArg Poll.hash hstage
      · exact congrArg Poll.hash hstage
    exact ⟨r, hr, hsame.trans hr, Record.isLive_of_pending hpending⟩
  obtain ⟨hpolls, hsame, hnone⟩ := @polls_fill _ g s.begun s.settled s.running s.waiting hlive
  have hfilled : (fill g s.running s.begun s.settled s.waiting).Sound :=
    (sound_fill g s.running s.begun s.settled s.waiting hsound.nodup hsound.lt_begun).1
  rw [← hsame] at hsettled
  simp only [proceed]
  split
  · rename_i hempty
    rw [List.isEmpty_iff] at hempty
    obtain ⟨hwaiting, hrunning⟩ := hnone hempty
    have hzero : s.polls g₀.watchlist.lookup? = 0 := by
      rw [polls, hwaiting, hrunning]
      rfl
    exact ⟨hzero ▸ hunderway, hsettled⟩
  · rename_i hbusy
    rw [List.isEmpty_iff] at hbusy
    exact ⟨⟨hfilled, hpolls ▸ hunderway, hsettled⟩, hbusy⟩

/-- Whichever poll of a sweep goes on, one errand is done. -/
theorem At.resume (hat : s.At w p now g₀ g done) {c : Settle} (hpoll : s.poll? i = some c) :
    ∃ e, e.query = c.query ∧
      Reaches w p now g₀ (done ++ [e]) (s.resume p now g i (w.answer c.query)) := by
  have hget := hpoll
  rw [poll?_eq] at hget
  obtain ⟨rest, hall, hset, herase⟩ :=
    Entries.exists_rest (fun c : Settle => ({c} : Multiset Settle)) hat.sound.nodup hget
  have hpolls : s.polls g₀.watchlist.lookup? =
      {c} + (↑(s.waiting.map (Settle.begun g₀.watchlist.lookup?)) + rest) := by
    rw [polls, hall]
    ac_rfl
  obtain ⟨e, hquery, hunderway, hsaves⟩ := (hpolls ▸ hat.underway).does
  refine ⟨e, hquery, ?_⟩
  simp only [Sweep.resume, hpoll]
  generalize c.resume p now g (w.answer c.query) = y at hunderway hsaves
  obtain ⟨g', x⟩ := y
  have hcount : (done ++ [e]).countP Errand.isSave =
      if x.hasSettled then s.settled + 1 else s.settled := by
    rw [List.countP_append, hat.settled_eq, hsaves]
    cases he : e.isSave <;> simp [he]
  cases x with
  | waiting c' =>
      dsimp only
      rw [map_eq_set hat.sound.nodup hget]
      refine ⟨⟨hat.sound.set hget c', ?_, ?_⟩, ?_⟩
      · have hafter : ({ s with running := Entries.set i c' s.running } : Sweep).polls
            g₀.watchlist.lookup? =
              {c'} + (↑(s.waiting.map (Settle.begun g₀.watchlist.lookup?)) + rest) := by
          rw [polls, hset]
          ac_rfl
        rw [hafter]
        exact hunderway
      · exact hcount.symm
      · intro hempty
        have hkey := (Entries.mem_keys_set i c' s.running i).mpr (.inl rfl)
        simp only at hempty
        rw [hempty] at hkey
        cases hkey
  | ended result =>
      apply reaches_proceed (hat.sound.remove i _)
      · rw [polls, herase]
        rw [Progress.left, zero_add] at hunderway
        exact hunderway
      · exact hcount.symm

/-- A sweep of a gateway in which every record stands under its own hash has nothing done yet. -/
theorem reaches_start (hkeyed : g₀.watchlist.Keyed) : Reaches w p now g₀ [] (start g₀) := by
  have hfits : ∀ h ∈ g₀.watchlist.live,
      (Settle.begun g₀.watchlist.lookup? h).Fits w p now g₀.watchlist.lookup? := by
    intro h hh
    obtain ⟨r, hr, hlive⟩ := Watchlist.mem_live.mp hh
    obtain rfl : r.hash = h := hkeyed h r hr
    exact ⟨r, hr, Record.status_of_isLive hlive, .inl (by rw [hr]; rfl)⟩
  have hpolls : (⟨g₀.watchlist.live, [], 0, 0⟩ : Sweep).polls g₀.watchlist.lookup? =
      ↑(g₀.watchlist.live.map (Settle.begun g₀.watchlist.lookup?)) := add_zero _
  have hdue := allDue_begun g₀.watchlist.lookup? g₀.watchlist.live
  apply reaches_proceed
  · exact ⟨List.nodup_nil, by simp⟩
  · rw [hpolls]
    refine ⟨?_, zero_add _, ?_, ?_, fun _ _ => rfl, ?_, fun _ _ => rfl, rfl, fun a => ?_⟩
    · intro c hc
      obtain ⟨h, hh, rfl⟩ := List.mem_map.mp (Multiset.mem_coe.mp hc)
      exact hfits h hh
    · rw [hdue, Multiset.coe_nodup]
      exact g₀.watchlist.nodup_live
    · rw [hdue]
      exact fun h hh => Multiset.mem_coe.mp hh
    · rw [hdue]
      exact fun h hh hno => absurd (Multiset.mem_coe.mpr hh) hno
    · exact (Option.map_id' (x := g₀.ledgers.get? a)).symm
  · rfl

end Sweep

end

end TxGateway
