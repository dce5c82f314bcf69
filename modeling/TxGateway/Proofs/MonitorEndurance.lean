import TxGateway.Proofs.Coupling
import TxGateway.Proofs.Forgetting
import TxGateway.Proofs.SignedPrice

/-!
# How long the monitor lasts

Valid settings may give the monitor any times. It breaks off at its start if one of its periods is
nothing. Once it has started it breaks off by itself in one way only: when it forgets old records
and the time for which they are kept leads out of the calendar, though it is not too long to be
taken from any date. Otherwise it goes on until it is dropped, is asked to end, or loses the chain
over one of its questions. When several of its moments have come, it may take any of them, so that
its first round of forgetting may come first of all.
-/

namespace TxGateway

/-- The settings with other times for the monitor: its two periods and how long records are kept. -/
def Settings.withTimes (s : Settings) (refresh stale retention : Duration) : Settings :=
  { s with gateway :=
    { s.gateway with refreshInterval := refresh, staleAfter := stale, retention := retention } }

/-- The times of the monitor play no part in whether settings are valid. -/
theorem Settings.validate_withTimes {s : Settings} (h : s.validate = .ok s)
    (refresh stale retention : Duration) :
    (s.withTimes refresh stale retention).validate = .ok (s.withTimes refresh stale retention) := by
  simp only [validate] at h
  split at h
  · cases h
  · split at h
    · cases h
    · split at h
      · cases h
      · split at h
        · cases h
        · simp only [validate, withTimes, *, if_false]
          rfl

/-- A round of forgetting breaks off exactly if the cutoff lies outside of the calendar. -/
theorem Gateway.evict_eq_error_iff {g : Gateway} {now : Timestamp} {olderThan : Duration}
    {crash : Crash} : g.evict now olderThan = .error crash ↔
      crash = .outsideCalendar ∧ now.goBack olderThan.nanos = .outsideCalendar := by
  simp only [evict]
  split <;> simp [*, eq_comm]

namespace Monitor

variable {p : Policy} {now : Timestamp} {g g' : Gateway} {m : Monitor} {slot : Nat} {reply : Reply}
  {x : Ending Unit}

/-- Between two activities the monitor ends only if it has been asked to. -/
theorem closing_of_settle (h : settle g m = .ended x) :
    x = .returned (.ok ()) ∧ g.closing = true := by
  simp only [settle] at h
  split at h
  · cases h
    exact ⟨rfl, ‹_›⟩
  · cases h

theorem closing_of_afterSweep {progress : Progress Sweep Nat}
    (h : m.afterSweep g progress = .ended x) : x = .returned (.ok ()) ∧ g.closing = true := by
  cases progress with
  | waiting s => cases h
  | ended n => exact closing_of_settle h

theorem closing_of_afterReconcile {progress : Progress ReconcileAll Unit}
    (h : m.afterReconcile g progress = .ended x) :
    x = .returned (.ok ()) ∧ g.closing = true := by
  cases progress with
  | waiting r => cases h
  | ended u => exact closing_of_settle h

/-- The moment with a number is the one to forget old records, and it has come. -/
def ForgetsNow (m : Monitor) (now : Timestamp) (i : Nat) : Prop :=
  i = 2 ∧ m.cleanup.isDue now = true

/-- The monitor breaks off at a moment, because it is to forget old records and the time for which
they are kept leads out of the calendar. -/
structure LeavesCalendar (p : Policy) (now : Timestamp) (m : Monitor) (i : Nat) (reply : Reply) :
    Prop where
  /-- It has waited for the moment. -/
  idle : m.activity = .idle
  /-- The moment has come. -/
  reply_eq : reply = .done
  /-- It is the moment to forget old records. -/
  due : m.ForgetsNow now i
  /-- The cutoff lies outside of the calendar. -/
  outside : now.goBack p.retention.nanos = .outsideCalendar

theorem act_eq_ended (h : m.act p now g slot = (g', .ended x)) :
    (x = .returned (.ok ()) ∧ g'.closing = true) ∨
      x = .crashed .outsideCalendar ∧ g' = g ∧ m.ForgetsNow now slot ∧
        now.goBack p.retention.nanos = .outsideCalendar := by
  have hacts := m.acts p now g slot
  rw [h] at hacts
  generalize hx : (g', Progress.ended x) = y at hacts
  cases hacts with
  | sweeps =>
      obtain ⟨rfl, hended⟩ := Prod.mk.inj hx
      exact .inl (closing_of_afterSweep hended.symm)
  | reconciles =>
      obtain ⟨rfl, hended⟩ := Prod.mk.inj hx
      exact .inl (closing_of_afterReconcile hended.symm)
  | forgets evicts =>
      obtain ⟨rfl, hended⟩ := Prod.mk.inj hx
      exact .inl (closing_of_settle hended.symm)
  | breaksOff number_eq due evicts =>
      obtain ⟨rfl, houtside⟩ := Gateway.evict_eq_error_iff.mp evicts
      cases hx
      exact .inr ⟨rfl, rfl, ⟨number_eq, due⟩, houtside⟩
  | waits => cases hx

/-- The monitor ends because it has been asked to, or breaks off because it leaves the calendar. -/
theorem resume_eq_ended (h : m.resume p now g slot reply = (g', .ended x)) :
    (x = .returned (.ok ()) ∧ g'.closing = true) ∨
      x = .crashed .outsideCalendar ∧ g' = g ∧ m.LeavesCalendar p now slot reply := by
  obtain ⟨refresh, reconcile, cleanup, activity⟩ := m
  cases activity with
  | idle =>
      cases reply with
      | done =>
          exact (act_eq_ended h).imp id fun ⟨hx, hg, hdue, houtside⟩ =>
            ⟨hx, hg, rfl, rfl, hdue, houtside⟩
      | _ => cases h
  | sweeping s =>
      obtain ⟨rfl, hended⟩ := Prod.mk.inj h
      exact .inl (closing_of_afterSweep hended)
  | reconciling r =>
      obtain ⟨rfl, hended⟩ := Prod.mk.inj h
      exact .inl (closing_of_afterReconcile hended)

theorem LeavesCalendar.resume_eq (h : m.LeavesCalendar p now slot reply) (g : Gateway) :
    m.resume p now g slot reply = (g, .ended (.crashed .outsideCalendar)) := by
  obtain ⟨hidle, rfl, ⟨rfl, hcleanup⟩, houtside⟩ := h
  have hevict : g.evict now p.retention = .error .outsideCalendar :=
    Gateway.evict_eq_error_iff.mpr ⟨rfl, houtside⟩
  simp [resume, hidle, act, hcleanup, hevict]

theorem start_eq_crashed_iff {crash : Crash} :
    start p now g = .ended (.crashed crash) ↔
      crash = .zeroPeriod ∧ (p.refreshInterval.nanos = 0 ∨ p.staleAfter.nanos = 0) := by
  simp only [start]
  split
  · rename_i hzero
    simp [hzero, eq_comm]
  · rename_i hzero
    constructor
    · intro h
      cases (closing_of_settle h).1
    · exact fun h => absurd h.2 hzero

theorem resume_eq_crashed_iff {crash : Crash} :
    m.resume p now g slot reply = (g', .ended (.crashed crash)) ↔
      crash = .outsideCalendar ∧ g' = g ∧ m.LeavesCalendar p now slot reply := by
  constructor
  · intro h
    rcases resume_eq_ended h with ⟨hx, -⟩ | ⟨hx, hg, hleaves⟩
    · cases hx
    · cases hx
      exact ⟨rfl, hg, hleaves⟩
  · rintro ⟨rfl, rfl, hleaves⟩
    exact hleaves.resume_eq g'

/-- With periods that last the monitor starts, and a moment of each kind has come. -/
theorem exists_start (hrefresh : p.refreshInterval.nanos ≠ 0) (hstale : p.staleAfter.nanos ≠ 0)
    (hopen : g.closing = false) (now : Timestamp) :
    ∃ m, start p now g = .waiting m ∧ m.activity = .idle ∧ m.refresh.isDue now = true ∧
      m.reconcile.isDue now = true ∧ m.cleanup.isDue now = true := by
  have hdue : ∀ (period : Duration) (makesUp : Bool),
      (Timer.start now period makesUp).isDue now = true := by
    simp [Timer.start, Timer.isDue]
  have hstart : start p now g = .waiting ⟨.start now p.refreshInterval false,
      .start now p.staleAfter false, .start now cleanupInterval true, .idle⟩ := by
    simp only [start, settle, hrefresh, hstale, hopen, or_self, if_false, Bool.false_eq_true]
  exact ⟨_, hstart, rfl, hdue _ _, hdue _ _, hdue _ _⟩

end Monitor

/-- A monitor at work breaks off because the chain does, or because it leaves the calendar. The
gateway stays as it is. -/
theorem Call.monitor_resume_eq_crashed_iff {p : Policy} {now : Timestamp} {g g' : Gateway}
    {w : Monitor} {slot : Nat} {reply : Reply} {crash : Crash} :
    (Call.monitor w).resume p now g slot reply = (g', .ended (.crashed crash)) ↔
      g' = g ∧ (reply = .crashed crash ∧ (Call.monitor w).looksOutward slot = true ∨
        crash = .outsideCalendar ∧ w.LeavesCalendar p now slot reply) := by
  by_cases hreply : ∃ c, reply = .crashed c
  · obtain ⟨c, rfl⟩ := hreply
    have hstays : ¬ w.LeavesCalendar p now slot (.crashed c) := fun h => by cases h.reply_eq
    simp only [resume, hstays, and_false, or_false]
    split <;> simp [*, eq_comm]
  · rw [not_exists] at hreply
    have hnot : ¬ reply = .crashed crash := hreply crash
    have hmonitor : w.resume p now g slot reply = (g', .ended (.crashed crash)) ↔ _ :=
      Monitor.resume_eq_crashed_iff
    simp only [Call.resume_eq_proceed hreply, hnot, false_and, false_or]
    rw [and_left_comm, ← hmonitor]
    cases hresume : w.resume p now g slot reply with
    | mk g₁ progress =>
        cases progress with
        | waiting w' => simp [proceed, hresume, Progress.map]
        | ended x => cases x <;> simp [proceed, hresume, Progress.map, Ending.map]

namespace System

variable {p : Policy} {s : System} {m : Moment} {ms : List Moment} {i j k : Nat}

/-- A monitor is at work. -/
def Monitors (i : Nat) (s : System) : Prop := ∃ w, s.calls.get? i = some (.monitor w)

/-- What can make a monitor at work stop at a moment. -/
inductive StopsMonitor (p : Policy) (i : Nat) (s : System) (m : Moment) : Prop
  /-- It is dropped. -/
  | dropped (what_eq : m.what = .event (.abandon i))
  /-- It has been asked to end. -/
  | asked {slot : Nat} {reply : Reply} (what_eq : m.what = .event (.reply i slot reply))
      (closing : (s.pass p m).gateway.closing = true)
  /-- What it has asked of the chain breaks off. -/
  | chain {slot : Nat} {crash : Crash} {w : Monitor}
      (what_eq : m.what = .event (.reply i slot (.crashed crash)))
      (get?_eq : s.calls.get? i = some (.monitor w))
      (outward : (Call.monitor w).looksOutward slot = true)
  /-- It is to forget old records, and the time for which they are kept leads out of the
  calendar. -/
  | calendar {slot : Nat} {reply : Reply} {w : Monitor}
      (what_eq : m.what = .event (.reply i slot reply))
      (get?_eq : s.calls.get? i = some (.monitor w))
      (leaves : w.LeavesCalendar p m.now slot reply)

/-- A monitor at work comes to its end at a moment. -/
structure EndsMonitor (p : Policy) (i : Nat) (s : System) (m : Moment) : Prop where
  /-- It is at work before. -/
  works : Monitors i s
  /-- It is gone afterwards. -/
  gone : Gone i (s.pass p m)
  /-- Something has made it stop. -/
  cause : StopsMonitor p i s m

/-- A monitor that gets an answer goes on, or it ends and something has made it stop. -/
theorem monitor_proceed {slot : Nat} {reply : Reply} {w : Monitor}
    (hwhat : m.what = .event (.reply i slot reply)) (hget : s.calls.get? i = some (.monitor w))
    (hreply : ∀ crash, reply ≠ .crashed crash) :
    (∃ w', ((Call.monitor w).proceed p m.now s.gateway slot reply).2 = .waiting (.monitor w')) ∨
      (∃ x, ((Call.monitor w).proceed p m.now s.gateway slot reply).2 = .ended x) ∧
        StopsMonitor p i s m := by
  cases hresume : w.resume p m.now s.gateway slot reply with
  | mk g progress =>
      cases progress with
      | waiting w' => exact .inl ⟨w', by simp only [Call.proceed, hresume, Progress.map]⟩
      | ended x =>
          refine .inr ⟨⟨_, by simp only [Call.proceed, hresume, Progress.map]; rfl⟩, ?_⟩
          rcases Monitor.resume_eq_ended hresume with ⟨rfl, hclosing⟩ | ⟨-, -, hleaves⟩
          · refine .asked hwhat ?_
            simp only [pass, hwhat, step, System.reply, hget, Call.resume_eq_proceed hreply,
              Call.proceed, hresume, Progress.map, Ending.map]
            exact hclosing
          · exact .calendar hwhat hget hleaves

/-- A monitor at work is still at work after a moment, or has come to its end. -/
theorem Monitors.pass (h : Monitors i s) (hi : i < s.opened) (p : Policy) (m : Moment) :
    Monitors i (s.pass p m) ∨ EndsMonitor p i s m := by
  have hworks := h
  obtain ⟨w, hget⟩ := h
  by_cases hm : m.call? = some i
  · rcases get?_pass_of_call (p := p) hi hget hm with
      ⟨hgone, hdropped | ⟨slot, crash, hwhat, hout⟩⟩ | hstays |
        ⟨slot, reply, hwhat, hreply, hnext⟩
    · exact .inr ⟨hworks, hgone, .dropped hdropped⟩
    · exact .inr ⟨hworks, hgone, .chain hwhat hget hout⟩
    · exact .inl ⟨w, hstays.symm.trans hget⟩
    · rcases monitor_proceed (p := p) hwhat hget hreply with ⟨w', hgoes⟩ | ⟨⟨x, hends⟩, hcause⟩
      · rw [hgoes] at hnext
        exact .inl ⟨w', hnext⟩
      · rw [hends] at hnext
        exact .inr ⟨hworks, hnext, hcause⟩
  · exact .inl ⟨w, (get?_pass_of_ne hi p hm).trans hget⟩

/-- In a run a monitor stays at work until it has come to its end. -/
theorem Monitors.later (h : Monitors i (upTo p ms j)) (hjk : j ≤ k) (hk : k ≤ ms.length) :
    Monitors i (upTo p ms k) ∨ ∃ l, j ≤ l ∧ l < k ∧ At p ms l (EndsMonitor p i) := by
  apply upTo_induction (P := fun k s => Monitors i s ∨
    ∃ l, j ≤ l ∧ l < k ∧ At p ms l (EndsMonitor p i)) hjk hk (.inl h)
  rintro k m hjk - hm (⟨w, hget⟩ | ⟨l, hjl, hlk, hends⟩)
  · have hi : i < (upTo p ms k).opened := (sound_after p _).lt_opened i _ hget
    rcases Monitors.pass ⟨w, hget⟩ hi p m with hstill | hends
    · exact .inl hstill
    · exact .inr ⟨k, hjk, Nat.lt_succ_self k, m, hm, hends⟩
  · exact .inr ⟨l, hjl, Nat.lt_succ_of_lt hlk, hends⟩

/-- How the monitor starts under some settings, and how it comes to its end. -/
structure MonitorEndures (s : Settings) : Prop where
  /-- Valid settings stay valid whatever times they give the monitor. -/
  valid_anyway : s.validate = .ok s → ∀ refresh stale retention,
    (s.withTimes refresh stale retention).validate = .ok (s.withTimes refresh stale retention)
  /-- The monitor breaks off at its start exactly if one of its periods is nothing. -/
  start_crashes_iff : ∀ now g crash, Monitor.start s.gateway now g = .ended (.crashed crash) ↔
    crash = .zeroPeriod ∧
      (s.gateway.refreshInterval.nanos = 0 ∨ s.gateway.staleAfter.nanos = 0)
  /-- Otherwise it waits, and a moment of each kind has come. -/
  starts : s.gateway.refreshInterval.nanos ≠ 0 → s.gateway.staleAfter.nanos ≠ 0 →
    ∀ now g, g.closing = false → ∃ w, Monitor.start s.gateway now g = .waiting w ∧
      w.activity = .idle ∧ w.refresh.isDue now = true ∧ w.reconcile.isDue now = true ∧
      w.cleanup.isDue now = true
  /-- A round of forgetting breaks off exactly if the cutoff lies outside of the calendar. -/
  evict_crashes_iff : ∀ (now : Timestamp) (g : Gateway) (crash : Crash),
    g.evict now s.gateway.retention = .error crash ↔
      crash = .outsideCalendar ∧ now.goBack s.gateway.retention.nanos = .outsideCalendar
  /-- From a date that happens exactly if the time is not too long for all dates and leads to before
  the first one. -/
  outside_iff : ∀ now : Timestamp, now.hasDate = true →
    (now.goBack s.gateway.retention.nanos = .outsideCalendar ↔
      s.gateway.retention.nanos ≤ Timestamp.greatestSpan ∧
        now.nanos - s.gateway.retention.nanos < Timestamp.earliest.nanos)
  /-- A time that is too long for all dates forgets nothing. -/
  evict_of_tooLong : Timestamp.greatestSpan < s.gateway.retention.nanos →
    ∀ (now : Timestamp) (g : Gateway), g.evict now s.gateway.retention = .ok (g, 0)
  /-- At work it breaks off exactly if the chain does so on one of its questions, or if it is to
  forget and the cutoff lies outside of the calendar. The gateway stays as it is. -/
  crashes_iff : ∀ w now g g' slot reply crash,
    (Call.monitor w).resume s.gateway now g slot reply = (g', .ended (.crashed crash)) ↔
      g' = g ∧ (reply = .crashed crash ∧ (Call.monitor w).looksOutward slot = true ∨
        crash = .outsideCalendar ∧ w.LeavesCalendar s.gateway now slot reply)
  /-- In every run a monitor stays at work until it has come to one of its ends. -/
  lasts : ∀ ms i j k, Monitors i (upTo s.gateway ms j) → j ≤ k → k ≤ ms.length →
    Monitors i (upTo s.gateway ms k) ∨
      ∃ l, j ≤ l ∧ l < k ∧ At s.gateway ms l (EndsMonitor s.gateway i)

/-- The monitor lasts until it is dropped, is asked to end, loses the chain or leaves the
calendar. -/
theorem monitor_endures (s : Settings) : MonitorEndures s where
  valid_anyway := s.validate_withTimes
  start_crashes_iff := fun _ _ _ => Monitor.start_eq_crashed_iff
  starts := fun hrefresh hstale now _ hopen => Monitor.exists_start hrefresh hstale hopen now
  evict_crashes_iff := fun _ _ _ => Gateway.evict_eq_error_iff
  outside_iff := fun _ => Timestamp.goBack_eq_outsideCalendar_iff
  evict_of_tooLong := fun hlong now g => by
    rw [Gateway.evict, Timestamp.goBack_of_tooLong hlong]
  crashes_iff := fun _ _ _ _ _ _ _ => Call.monitor_resume_eq_crashed_iff
  lasts := fun _ _ _ _ => Monitors.later

/-- Records are kept for ten million million seconds. -/
def keepingForAges : Settings :=
  (Settings.usual .dynamic 300).withTimes (.ofSeconds 5) (.ofSeconds 30) (.ofSeconds (10 ^ 13))

/-- No time lies between two sweeps. -/
def restless : Settings :=
  (Settings.usual .dynamic 300).withTimes (.ofSeconds 0) (.ofSeconds 30) (.ofSeconds 86400)

/-- A moment in the year 2023. -/
def sometime : Timestamp := ⟨1700000000 * 10 ^ 9⟩

/-- The monitor is set going, and its first three moments come: to sweep, to bring the ledgers up to
date and to forget. -/
def firstRounds : List Moment :=
  [.start .monitor, .reply 0 0 .done, .reply 0 1 .done, .reply 0 2 .done].map
    fun e => ⟨sometime, .event e⟩

/-- With valid settings the monitor breaks off at its first round of forgetting, though nothing has
been sent and nobody has dropped it or asked it to end. With others it does not even start. -/
theorem monitor_breaks_off :
    keepingForAges.validate = .ok keepingForAges ∧ sometime.hasDate = true ∧
      Monitors 0 (upTo keepingForAges.gateway firstRounds 3) ∧
      ¬ Monitors 0 (after keepingForAges.gateway firstRounds) ∧
      (reply keepingForAges.gateway sometime (upTo keepingForAges.gateway firstRounds 3) 0 2
        .done).2.ending = some (.crashed .outsideCalendar) ∧
      restless.validate = .ok restless ∧
      (start restless.gateway sometime {} .monitor).2.ending = some (.crashed .zeroPeriod) := by
  refine ⟨rfl, by decide, ⟨_, rfl⟩, ?_, rfl, rfl, rfl⟩
  rintro ⟨w, hw⟩
  cases hw

end System

end TxGateway
