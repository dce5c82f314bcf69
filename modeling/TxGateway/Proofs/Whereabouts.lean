import TxGateway.Proofs.Coupling

/-!
# Where a submission is

A submission with a nonce in hand comes to its broadcast, or gives up, or is dropped; its wait for
the broadcast ends with a refusal, or is concluded, and then its transaction is to be watched.
-/

namespace TxGateway

/-- The record under which a transaction on its way is to be watched when an answer ends the wait
for its broadcast and does not refuse it. The node may have accepted it under a hash of its own, or
nothing is known. -/
def Submit.concluded? (now : Timestamp) (sent : Record) (slot : Nat) : Reply → Option Record
  | .accepted hash => some (.fresh now ⟨sent.id, sent.account, sent.nonce, hash⟩)
  | .unreachable _ | .silence => some sent
  | .crashed _ => if slot = 0 then some sent else none
  | _ => none

/-- The same for a moment of a run, at which the submission may also be dropped. -/
def Moment.concludes? (m : Moment) (c : Nat) (sent : Record) : Option Record :=
  match m.what with
  | .event (.reply i slot r) => if i = c then Submit.concluded? m.now sent slot r else none
  | .event (.abandon i) => if i = c then some sent else none
  | _ => none

/-- The record to be watched is a fresh one under the hash that the node has reported, or the one
that was ready. -/
theorem Moment.concludes?_eq_some {m : Moment} {c : Nat} {sent r : Record}
    (hr : m.concludes? c sent = some r) :
    (∃ slot hash, m.what = .event (.reply c slot (.accepted hash)) ∧
      r = .fresh m.now ⟨sent.id, sent.account, sent.nonce, hash⟩) ∨ r = sent := by
  obtain ⟨now, what⟩ := m
  cases what with
  | event e =>
      cases e with
      | start t => cases hr
      | reply i slot reply =>
          simp only [concludes?] at hr
          split at hr
          · subst i
            cases reply with
            | accepted hash =>
                cases hr
                exact .inl ⟨slot, hash, rfl, rfl⟩
            | unreachable detail =>
                cases hr
                exact .inr rfl
            | silence =>
                cases hr
                exact .inr rfl
            | crashed crash =>
                simp only [Submit.concluded?] at hr
                split at hr
                · cases hr
                  exact .inr rfl
                · cases hr
            | _ => cases hr
          · cases hr
      | abandon i =>
          simp only [concludes?] at hr
          split at hr
          · cases hr
            exact .inr rfl
          · cases hr
  | evict olderThan => cases hr
  | close => cases hr

namespace System

/-- A submission has a nonce, and nothing has been sent. -/
def Unsent (c : Nat) (a : Address) (n : Nat) (s : System) : Prop :=
  ∃ request : Request, request.account = a ∧
    (s.calls.get? c = some (.submit ⟨request, .pricing n⟩) ∨
      ∃ price, s.calls.get? c = some (.submit ⟨request, .signing n price⟩))

/-- A submission is about to give its nonce back. -/
def GivingUp (c : Nat) (a : Address) (n : Nat) (s : System) : Prop :=
  ∃ (request : Request) (e : Failure), request.account = a ∧
    s.calls.get? c = some (.submit ⟨request, .returning n e⟩)

/-- A submission has called for its broadcast and waits for the outcome. -/
def OnItsWay (c : Nat) (sent : Record) (s : System) : Prop :=
  ∃ request raw, s.calls.get? c = some (.submit ⟨request, .broadcasting sent raw⟩)

section

variable {p : Policy} {s : System} {m : Moment} {c n : Nat} {a : Address} {sent : Record}

/-- A submission that has a nonce waits for the price or the signature, gives up, is dropped, or
calls for its broadcast. -/
theorem Unsent.pass (h : Unsent c a n s) (hc : c < s.opened) :
    Unsent c a n (s.pass p m) ∨ GivingUp c a n (s.pass p m) ∨ Gone c (s.pass p m) ∨
      ∃ sent, OnItsWay c sent (s.pass p m) ∧ sent.account = a ∧ sent.nonce = n := by
  obtain ⟨request, rfl, hstage⟩ := h
  by_cases hm : m.call? = some c
  · rcases hstage with hget | ⟨price, hget⟩
    · rcases get?_pass_of_call (p := p) hc hget hm with
        ⟨hgone, -⟩ | hstay | ⟨slot, r, -, hcrash, hnext⟩
      · exact .inr (.inr (.inl hgone))
      · exact .inl ⟨request, rfl, .inl (hstay ▸ hget)⟩
      · cases r with
        | price price =>
            simp only [Call.proceed, Submit.resume] at hnext
            split at hnext
            · rename_i hx
              split at hx
              · cases hx
                exact .inl ⟨request, rfl, .inr ⟨_, hnext⟩⟩
              · cases hx
            · exact .inr (.inr (.inl hnext))
        | failed e => exact .inr (.inl ⟨request, e, rfl, hnext⟩)
        | crashed crash => exact absurd rfl (hcrash crash)
        | _ => exact .inl ⟨request, rfl, .inl hnext⟩
    · rcases get?_pass_of_call (p := p) hc hget hm with
        ⟨hgone, -⟩ | hstay | ⟨slot, r, -, hcrash, hnext⟩
      · exact .inr (.inr (.inl hgone))
      · exact .inl ⟨request, rfl, .inr ⟨price, hstay ▸ hget⟩⟩
      · cases r with
        | signed raw => exact .inr (.inr (.inr ⟨_, ⟨request, raw, hnext⟩, rfl, rfl⟩))
        | failed e => exact .inr (.inl ⟨request, e, rfl, hnext⟩)
        | crashed crash => exact absurd rfl (hcrash crash)
        | _ => exact .inl ⟨request, rfl, .inr ⟨price, hnext⟩⟩
  · rw [← get?_pass_of_ne hc p hm] at hstage
    exact .inl ⟨request, rfl, hstage⟩

theorem GivingUp.pass (h : GivingUp c a n s) (hc : c < s.opened) :
    GivingUp c a n (s.pass p m) ∨ Gone c (s.pass p m) := by
  obtain ⟨request, e, rfl, hget⟩ := h
  by_cases hm : m.call? = some c
  · rcases get?_pass_of_call (p := p) hc hget hm with
      ⟨hgone, -⟩ | hstay | ⟨slot, r, -, hcrash, hnext⟩
    · exact .inr hgone
    · exact .inl ⟨request, e, rfl, hstay ▸ hget⟩
    · cases r with
      | done => exact .inr hnext
      | crashed crash => exact absurd rfl (hcrash crash)
      | _ => exact .inl ⟨request, e, rfl, hnext⟩
  · rw [← get?_pass_of_ne hc p hm] at hget
    exact .inl ⟨request, e, rfl, hget⟩

/-- The node refuses a transaction on its way. -/
def Refuses (c : Nat) (sent : Record) (s : System) (m : Moment) : Prop :=
  OnItsWay c sent s ∧ ∃ slot reason, m.what = .event (.reply c slot (.rejected reason))

/-- A transaction stays on its way until it is refused or its wait is concluded. -/
theorem OnItsWay.pass (h : OnItsWay c sent s) (hc : c < s.opened) :
    OnItsWay c sent (s.pass p m) ∨ Refuses c sent s m ∨ ∃ r, m.concludes? c sent = some r := by
  obtain ⟨request, raw, hget⟩ := h
  by_cases hm : m.call? = some c
  · obtain ⟨now, what⟩ := m
    cases what with
    | event e =>
        cases e with
        | start t => cases hm
        | reply _ slot r =>
            cases hm
            have hnext := get?_reply hc p now c slot r
            rw [if_pos rfl, hget, Option.bind_some] at hnext
            cases r with
            | rejected reason =>
                exact .inr (.inl ⟨⟨request, raw, hget⟩, slot, reason, rfl⟩)
            | accepted hash => exact .inr (.inr ⟨_, if_pos rfl⟩)
            | unreachable detail => exact .inr (.inr ⟨_, if_pos rfl⟩)
            | silence => exact .inr (.inr ⟨_, if_pos rfl⟩)
            | crashed crash =>
                by_cases hslot : slot = 0
                · refine .inr (.inr ⟨sent, ?_⟩)
                  simp [Moment.concludes?, Submit.concluded?, hslot]
                · refine .inl ⟨request, raw, ?_⟩
                  have hquiet : (Call.submit ⟨request, .broadcasting sent raw⟩).looksOutward slot =
                      false := by
                    simp [Call.looksOutward, Call.queries, Ne.symm hslot]
                  simp only [Call.resume, hquiet, Bool.false_eq_true, if_false] at hnext
                  exact hnext
            | _ => exact .inl ⟨request, raw, hnext⟩
        | abandon _ =>
            cases hm
            exact .inr (.inr ⟨sent, if_pos rfl⟩)
    | evict olderThan => cases hm
    | close => cases hm
  · rw [← get?_pass_of_ne hc p hm] at hget
    exact .inl ⟨request, raw, hget⟩

/-- The record of a transaction on its way is fresh, and bears the hash of the signed bytes. -/
theorem OnItsWay.fresh (h : OnItsWay c sent s) (hs : s.CallsAre Call.Sound) :
    sent.status = .pending ∧ ∃ request raw,
      s.calls.get? c = some (.submit ⟨request, .broadcasting sent raw⟩) ∧
      sent.account = request.account ∧ sent.hash = TxHash.ofRaw raw := by
  obtain ⟨request, raw, hget⟩ := h
  obtain ⟨haccount, hpending, hhash⟩ := hs.each c _ hget sent raw rfl
  exact ⟨hpending, request, raw, hget, haccount, hhash⟩

/-- When the wait for a broadcast is concluded, the transaction is entered in the watchlist; if that
is not possible, the submission ends and nothing else happens. -/
theorem OnItsWay.concluded (h : OnItsWay c sent s) {r : Record}
    (hr : m.concludes? c sent = some r) :
    s.turn? m = none ∧ (s.pass p m).gateway = (s.gateway.watch r).1 ∧
      ∀ e, (s.gateway.watch r).2 = .error e → (s.pass p m).calls = s.calls.erase c := by
  obtain ⟨request, raw, hget⟩ := h
  obtain ⟨now, what⟩ := m
  cases what with
  | event e =>
      cases e with
      | start t => cases hr
      | reply i slot reply =>
          simp only [Moment.concludes?] at hr
          split at hr
          · subst i
            cases hw : s.gateway.watch r with
            | mk g' result =>
                cases reply with
                | crashed crash =>
                    simp only [Submit.concluded?] at hr
                    split at hr
                    · subst slot
                      cases hr
                      refine ⟨by simp [turn?, hget, Call.turn?], ?_⟩
                      cases result <;>
                        simp [System.pass, step, System.reply, hget, Call.resume,
                          Call.looksOutward, Call.queries, Submit.query, Query.isOutward,
                          System.abandon, Call.abandon, Submit.abandon, hw, enrollChores]
                    · cases hr
                | accepted hash =>
                    cases hr
                    refine ⟨by simp [turn?, hget, Call.turn?, Call.turnOf?, Submit.turn?], ?_⟩
                    cases result <;>
                      simp [System.pass, step, System.reply, hget, Call.resume, Call.proceed,
                        Submit.resume, Submit.accept, hw, Progress.map, Submit.fail, Ending.map]
                | unreachable detail =>
                    cases hr
                    refine ⟨by simp [turn?, hget, Call.turn?, Call.turnOf?, Submit.turn?], ?_⟩
                    cases result <;>
                      simp [System.pass, step, System.reply, hget, Call.resume, Call.proceed,
                        Submit.resume, Submit.hold, hw, Progress.map, Submit.fail, Ending.map]
                | silence =>
                    cases hr
                    refine ⟨by simp [turn?, hget, Call.turn?, Call.turnOf?, Submit.turn?], ?_⟩
                    cases result <;>
                      simp [System.pass, step, System.reply, hget, Call.resume, Call.proceed,
                        Submit.resume, Submit.hold, hw, Progress.map, Submit.fail, Ending.map]
                | _ => cases hr
          · cases hr
      | abandon i =>
          simp only [Moment.concludes?] at hr
          split at hr
          · subst i
            cases hr
            refine ⟨rfl, ?_⟩
            cases hw : s.gateway.watch sent with
            | mk g' result =>
                cases result <;>
                  simp [System.pass, step, System.abandon, hget, Call.abandon, Submit.abandon, hw,
                    enrollChores]
          · cases hr
  | evict olderThan => cases hr
  | close => cases hr

end

end System

end TxGateway
