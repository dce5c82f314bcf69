import TxGateway.Proofs.Run
import Mathlib.Order.Nat

/-!
# The calls in progress

A call changes only at the moments that are about it, and its number is never given to another one.
So what every call satisfies when it is opened, and keeps when it goes on, all calls of a run
satisfy.
-/

namespace TxGateway

/-- The call that a moment is about. -/
def Moment.call? (m : Moment) : Option Nat :=
  match m.what with
  | .event (.reply i _ _) | .event (.abandon i) => some i
  | _ => none

/-- A call goes on with every answer but a crash. -/
theorem Call.resume_eq_proceed {p : Policy} {now : Timestamp} {g : Gateway} {c : Call} {slot : Nat}
    {reply : Reply} (h : ∀ crash, reply ≠ .crashed crash) :
    c.resume p now g slot reply = c.proceed p now g slot reply := by
  cases reply with
  | crashed crash => exact absurd rfl (h crash)
  | _ => rfl

namespace System

/-- A call has come to its end. -/
def Gone (c : Nat) (s : System) : Prop := s.calls.get? c = none

section

variable {s : System} {c : Nat}

theorem opened_le_enrollChores (s : System) (cs : List Chore) :
    s.opened ≤ (s.enrollChores cs).1.opened := by
  induction cs generalizing s with
  | nil => exact le_rfl
  | cons d cs ih => exact (Nat.le_succ _).trans (ih (s.enroll (.chore d)))

theorem get?_enroll (hc : c < s.opened) (d : Call) :
    (s.enroll d).calls.get? c = s.calls.get? c := by
  simp only [enroll, Table.get?_set, hc.ne, if_false]

theorem get?_enrollChores (hc : c < s.opened) (cs : List Chore) :
    (s.enrollChores cs).1.calls.get? c = s.calls.get? c := by
  induction cs generalizing s with
  | nil => rfl
  | cons d cs ih =>
      have hnext := ih (s := s.enroll (.chore d)) (Nat.lt_succ_of_lt hc)
      rw [get?_enroll hc] at hnext
      exact hnext

theorem opened_le_abandon (s : System) (i : Nat) : s.opened ≤ (s.abandon i).1.opened := by
  simp only [abandon]
  split
  · exact le_rfl
  · rename_i d hd
    exact opened_le_enrollChores
      { s with gateway := (d.abandon s.gateway).1, calls := s.calls.erase i } _

theorem get?_abandon (hc : c < s.opened) (i : Nat) :
    (s.abandon i).1.calls.get? c = if c = i then none else s.calls.get? c := by
  simp only [abandon]
  split
  · rename_i hi
    split
    · rename_i heq
      rw [heq, hi]
    · rfl
  · rename_i d hd
    exact (get?_enrollChores
      (s := { s with gateway := (d.abandon s.gateway).1, calls := s.calls.erase i }) hc _).trans
        (s.calls.get?_erase i c)

theorem opened_le_reply (s : System) (p : Policy) (now : Timestamp) (i slot : Nat) (r : Reply) :
    s.opened ≤ (s.reply p now i slot r).1.opened := by
  simp only [reply]
  split
  · exact le_rfl
  · split
    · exact le_rfl
    · rename_i g crash hd
      exact opened_le_abandon { s with gateway := g } i
    · exact le_rfl

/-- Whatever comes of a question of a call, the call waits for something else or it is gone. -/
theorem get?_reply (hc : c < s.opened) (p : Policy) (now : Timestamp) (i slot : Nat) (r : Reply) :
    (s.reply p now i slot r).1.calls.get? c =
      if c = i then (s.calls.get? i).bind fun d =>
        match (d.resume p now s.gateway slot r).2 with
        | .waiting d' => some d'
        | .ended _ => none
      else s.calls.get? c := by
  cases hi : s.calls.get? i with
  | none =>
      simp only [reply, hi, Option.bind_none]
      split
      · rename_i heq
        rw [heq, hi]
      · rfl
  | some d =>
      simp only [reply, hi, Option.bind_some]
      split
      · rename_i hd
        simp only [Table.get?_set, hd]
      · rename_i g crash hd
        simp only [hd]
        exact get?_abandon (s := { s with gateway := g }) hc i
      · rename_i hd
        simp only [Table.get?_erase, hd]

theorem opened_le_pass (s : System) (p : Policy) (m : Moment) :
    s.opened ≤ (s.pass p m).opened := by
  obtain ⟨now, what⟩ := m
  cases what with
  | event e =>
      cases e with
      | start t =>
          simp only [pass, step, start]
          split <;> exact Nat.le_succ _
      | reply i slot r => exact opened_le_reply s p now i slot r
      | abandon i => exact opened_le_abandon s i
  | evict olderThan =>
      simp only [pass]
      split <;> exact le_rfl
  | close => exact le_rfl

/-- A call changes only at the moments that are about it. -/
theorem get?_pass_of_ne (hc : c < s.opened) (p : Policy) {m : Moment} (hm : m.call? ≠ some c) :
    (s.pass p m).calls.get? c = s.calls.get? c := by
  obtain ⟨now, what⟩ := m
  cases what with
  | event e =>
      cases e with
      | start t =>
          simp only [pass, step, start]
          split
          · rename_i g d hd
            exact get?_enroll (s := { s with gateway := g }) hc d
          · rfl
      | reply i slot r =>
          have hci : c ≠ i := fun heq => hm (by rw [heq]; rfl)
          exact (get?_reply hc p now i slot r).trans (if_neg hci)
      | abandon i =>
          have hci : c ≠ i := fun heq => hm (by rw [heq]; rfl)
          exact (get?_abandon hc i).trans (if_neg hci)
  | evict olderThan =>
      simp only [pass]
      split <;> rfl
  | close => rfl

/-- A call that is gone does not come back. -/
theorem get?_pass_of_none (hc : c < s.opened) (p : Policy) (m : Moment)
    (h : s.calls.get? c = none) : (s.pass p m).calls.get? c = none := by
  by_cases hm : m.call? = some c
  · obtain ⟨now, what⟩ := m
    cases what with
    | event e =>
        cases e with
        | start t => cases hm
        | reply _ slot r =>
            cases hm
            refine (get?_reply hc p now c slot r).trans ?_
            rw [if_pos rfl, h]
            rfl
        | abandon _ =>
            cases hm
            exact (get?_abandon hc c).trans (if_pos rfl)
    | evict olderThan => cases hm
    | close => cases hm
  · rw [get?_pass_of_ne hc p hm, h]

/-- At a moment that is about it a call is dropped, or what it has asked of the chain or the signer
breaks off, or it goes on with an answer. -/
theorem get?_pass_of_call {p : Policy} {m : Moment} (hc : c < s.opened) {d : Call}
    (hd : s.calls.get? c = some d) (hm : m.call? = some c) :
    (Gone c (s.pass p m) ∧ (m.what = .event (.abandon c) ∨ ∃ slot crash,
        m.what = .event (.reply c slot (.crashed crash)) ∧ d.looksOutward slot = true)) ∨
      s.calls.get? c = (s.pass p m).calls.get? c ∨
      ∃ slot r, m.what = .event (.reply c slot r) ∧ (∀ crash, r ≠ .crashed crash) ∧
        (s.pass p m).calls.get? c =
          match (d.proceed p m.now s.gateway slot r).2 with
          | .waiting d' => some d'
          | .ended _ => none := by
  obtain ⟨now, what⟩ := m
  cases what with
  | event e =>
      cases e with
      | start t => cases hm
      | reply _ slot r =>
          cases hm
          have hnext := get?_reply hc p now c slot r
          rw [if_pos rfl, hd, Option.bind_some] at hnext
          cases r with
          | crashed crash =>
              simp only [Call.resume] at hnext
              by_cases hout : d.looksOutward slot = true
              · rw [if_pos hout] at hnext
                exact .inl ⟨hnext, .inr ⟨slot, crash, rfl, hout⟩⟩
              · rw [if_neg hout] at hnext
                exact .inr (.inl (hd.trans hnext.symm))
          | _ =>
              refine .inr (.inr ⟨slot, _, rfl, fun crash heq => ?_, hnext⟩)
              cases heq
      | abandon _ =>
          cases hm
          exact .inl ⟨(get?_abandon hc c).trans (if_pos rfl), .inl rfl⟩
  | evict olderThan => cases hm
  | close => cases hm

/-- How a call comes to wait for something after a moment. -/
inductive Comes (p : Policy) (s : System) (m : Moment) (c : Nat) (d : Call) : Prop
  /-- It has waited for it before. -/
  | stays (get?_eq : s.calls.get? c = some d)
  /-- It has gone on with an answer. -/
  | resumes {slot : Nat} {r : Reply} {before : Call} (what_eq : m.what = .event (.reply c slot r))
      (get?_eq : s.calls.get? c = some before)
      (resume_eq : (before.resume p m.now s.gateway slot r).2 = .waiting d)
      (gateway_eq : (s.pass p m).gateway = (before.resume p m.now s.gateway slot r).1)
  /-- It has been set going. -/
  | starts {t : Task} (what_eq : m.what = .event (.start t)) (eq : c = s.opened)
      (start_eq : (Call.start p m.now s.gateway t).2 = .waiting d)
      (gateway_eq : (s.pass p m).gateway = (Call.start p m.now s.gateway t).1)
  /-- It is a chore that a dropped submission has left. -/
  | chore {x : Chore} (eq : d = .chore x) (opened_le : s.opened ≤ c)

theorem get?_enrollChores_cases {d : Call} (cs : List Chore)
    (h : (s.enrollChores cs).1.calls.get? c = some d) :
    s.calls.get? c = some d ∨ (∃ x, d = .chore x) ∧ s.opened ≤ c := by
  induction cs generalizing s with
  | nil => exact .inl h
  | cons x cs ih =>
      rcases ih (s := s.enroll (.chore x)) h with hget | ⟨hchore, hle⟩
      · simp only [enroll, Table.get?_set] at hget
        split at hget
        · rename_i heq
          cases hget
          exact .inr ⟨⟨x, rfl⟩, heq.ge⟩
        · exact .inl hget
      · exact .inr ⟨hchore, (Nat.le_succ _).trans hle⟩

theorem get?_abandon_cases {i : Nat} {d : Call} (h : (s.abandon i).1.calls.get? c = some d) :
    s.calls.get? c = some d ∨ (∃ x, d = .chore x) ∧ s.opened ≤ c := by
  simp only [abandon] at h
  split at h
  · exact .inl h
  · rcases get?_enrollChores_cases _ h with hget | hchore
    · rw [Table.get?_erase] at hget
      split at hget
      · cases hget
      · exact .inl hget
    · exact .inr hchore

/-- After a moment a call waits for what it has waited for before, or the moment has brought it
there. -/
theorem comes_of_get?_pass {p : Policy} {m : Moment} {d : Call}
    (h : (s.pass p m).calls.get? c = some d) : Comes p s m c d := by
  have habandon : ∀ {t : System} {i : Nat}, t.calls = s.calls → t.opened = s.opened →
      (t.abandon i).1.calls.get? c = some d → Comes p s m c d := by
    intro t i hcalls hopened hget
    rcases get?_abandon_cases hget with hstays | ⟨⟨x, rfl⟩, hle⟩
    · exact .stays (hcalls ▸ hstays)
    · exact .chore rfl (hopened ▸ hle)
  obtain ⟨now, what⟩ := m
  cases what with
  | event e =>
      cases e with
      | start t =>
          simp only [pass, step, start] at h
          split at h
          · rename_i g d' hd
            simp only [enroll, Table.get?_set] at h
            split at h
            · rename_i heq
              cases h
              refine .starts rfl heq (congrArg Prod.snd hd) ?_
              simp only [pass, step, start, hd]
              rfl
            · exact .stays h
          · exact .stays h
      | reply i slot r =>
          simp only [pass, step, reply] at h
          split at h
          · exact .stays h
          · rename_i before hget
            split at h
            · rename_i g d' hd
              simp only [Table.get?_set] at h
              split at h
              · rename_i heq
                cases h
                subst heq
                refine .resumes rfl hget (congrArg Prod.snd hd) ?_
                simp only [pass, step, reply, hget, hd]
              · exact .stays h
            · rename_i g crash hd
              exact habandon (t := { s with gateway := g }) rfl rfl h
            · simp only [Table.get?_erase] at h
              split at h
              · cases h
              · exact .stays h
      | abandon i => exact habandon rfl rfl h
  | evict olderThan =>
      simp only [pass] at h
      split at h <;> exact .stays h
  | close => exact .stays h

/-- Every call satisfies a condition, and has a number that has been given out. -/
structure CallsAre (Q : Call → Prop) (s : System) : Prop where
  /-- The calls satisfy the condition. -/
  each : ∀ i c, s.calls.get? i = some c → Q c
  /-- Their numbers have been given out. -/
  lt_opened : ∀ i c, s.calls.get? i = some c → i < s.opened

variable {Q : Call → Prop}

theorem callsAre_zero : CallsAre Q {} where
  each := fun i c h => by simp at h
  lt_opened := fun i c h => by simp at h

namespace CallsAre

theorem get?_opened (h : s.CallsAre Q) {i : Nat} (hi : s.opened ≤ i) : s.calls.get? i = none := by
  cases hget : s.calls.get? i with
  | none => rfl
  | some c => exact absurd (h.lt_opened i c hget) (Nat.not_lt.mpr hi)

theorem withGateway (h : s.CallsAre Q) (g : Gateway) : ({ s with gateway := g }).CallsAre Q :=
  ⟨h.each, h.lt_opened⟩

theorem enroll (h : s.CallsAre Q) {c : Call} (hc : Q c) : (s.enroll c).CallsAre Q := by
  constructor
  · intro i d hget
    simp only [System.enroll, Table.get?_set] at hget
    split at hget
    · cases hget
      exact hc
    · exact h.each i d hget
  · intro i d hget
    simp only [System.enroll, Table.get?_set] at hget
    split at hget
    · subst i
      exact Nat.lt_succ_self _
    · exact Nat.lt_succ_of_lt (h.lt_opened i d hget)

theorem enrollChores (h : s.CallsAre Q) (hchore : ∀ c, Q (.chore c)) (cs : List Chore) :
    (s.enrollChores cs).1.CallsAre Q := by
  induction cs generalizing s with
  | nil => exact h
  | cons c cs ih => exact ih (h.enroll (hchore c))

theorem erase (h : s.CallsAre Q) (i : Nat) : ({ s with calls := s.calls.erase i }).CallsAre Q := by
  have hget : ∀ j c, (s.calls.erase i).get? j = some c → s.calls.get? j = some c := by
    intro j c hj
    rw [Table.get?_erase] at hj
    split at hj
    · cases hj
    · exact hj
  exact ⟨fun j c hj => h.each j c (hget j c hj), fun j c hj => h.lt_opened j c (hget j c hj)⟩

theorem set (h : s.CallsAre Q) {i : Nat} {c d : Call} (hi : s.calls.get? i = some c) (hd : Q d) :
    ({ s with calls := s.calls.set i d }).CallsAre Q := by
  constructor
  · intro j e hget
    simp only [Table.get?_set] at hget
    split at hget
    · cases hget
      exact hd
    · exact h.each j e hget
  · intro j e hget
    simp only [Table.get?_set] at hget
    split at hget
    · subst j
      exact h.lt_opened i c hi
    · exact h.lt_opened j e hget

theorem abandon (h : s.CallsAre Q) (hchore : ∀ c, Q (.chore c)) (i : Nat) :
    (s.abandon i).1.CallsAre Q := by
  simp only [System.abandon]
  split
  · exact h
  · rename_i c hget
    exact ((h.erase i).withGateway (c.abandon s.gateway).1).enrollChores hchore _

/-- What every call satisfies at first and when it goes on is satisfied by all calls. -/
theorem pass (h : s.CallsAre Q) (p : Policy) (m : Moment) (hchore : ∀ c, Q (.chore c))
    (hstart : ∀ t d, m.what = .event (.start t) →
      (Call.start p m.now s.gateway t).2 = .waiting d → Q d)
    (hresume : ∀ i slot r c d, m.what = .event (.reply i slot r) → s.calls.get? i = some c →
      Q c → (c.resume p m.now s.gateway slot r).2 = .waiting d → Q d) :
    (s.pass p m).CallsAre Q := by
  obtain ⟨now, what⟩ := m
  cases what with
  | event e =>
      cases e with
      | start t =>
          simp only [System.pass, step, start]
          split
          · rename_i g' d hd
            exact (h.withGateway g').enroll (hstart t d rfl (by rw [hd]))
          · exact ⟨h.each, fun i c hi => Nat.lt_succ_of_lt (h.lt_opened i c hi)⟩
      | reply i slot r =>
          simp only [System.pass, step, reply]
          split
          · exact h
          · rename_i c hget
            split
            · rename_i g' d hd
              have hnext := hresume i slot r c d rfl hget (h.each i c hget) (by rw [hd])
              exact (h.set hget hnext).withGateway g'
            · rename_i g' crash hd
              exact (h.withGateway g').abandon hchore i
            · rename_i g' ending hcrash hd
              exact (h.erase i).withGateway g'
      | abandon i => exact h.abandon hchore i
  | evict olderThan =>
      simp only [System.pass]
      split
      · exact h.withGateway _
      · exact h
  | close => exact h.withGateway _

end CallsAre

end

end System

end TxGateway
