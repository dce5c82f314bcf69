import TxGateway.Proofs.Finality
import TxGateway.Proofs.Reserving

/-!
# Every record stands under its own hash

Whatever happens to a gateway, recoveries among other calls included, a record is only ever stored
under its own hash, and a poll changes neither.
-/

namespace TxGateway

section

variable {now : Timestamp} {g g' : Gateway} {reply : Reply}

theorem Alters.keyed {x : Option (TxHash × Watchlist.Observation)} (h : Alters g g' x)
    (hk : g.watchlist.Keyed) : g'.watchlist.Keyed := by
  cases h with
  | same still => exact still.watchlist_eq ▸ hk
  | enter entered => exact hk.enter entered
  | purge purged => exact purged ▸ hk.purge _
  | poll polled => exact hk.polled polled

theorem Recover.keyed_takeIn (total : Nat) (rs : List Record) (hk : g.watchlist.Keyed) :
    (takeIn total g rs).1.watchlist.Keyed := by
  induction rs generalizing g with
  | nil => exact hk
  | cons r rs ih =>
      have hrestored : (g.restore r).watchlist.Keyed := hk.restore r
      simp only [takeIn]
      split
      · exact ((g.restore r).spares_ensureLedger r.account).watchlist_eq ▸ hrestored
      · exact ih hrestored

theorem Recover.keyed_resume (c : Recover) (hk : g.watchlist.Keyed) :
    (c.resume now g reply).1.watchlist.Keyed := by
  cases c with
  | listing held => cases reply <;> exact hk
  | reconciling a r rest =>
      have hsteady := (r.steady_resume a now g reply).watchlist_eq
      simp only [resume]
      split <;> rename_i hstep <;> rw [hstep] at hsteady <;> exact hsteady ▸ hk
  | loading =>
      cases reply with
      | records rs => exact keyed_takeIn _ rs hk
      | _ => exact hk
  | claiming record o rest total =>
      have hsteady :=
        (o.steady_resume record.account (.named record.nonce) now g reply).watchlist_eq
      simp only [resume]
      split <;> rename_i hstep <;> rw [hstep] at hsteady
      · exact hsteady ▸ hk
      · exact keyed_takeIn _ rest (hsteady ▸ hk)
      · exact keyed_takeIn _ rest (hsteady ▸ hk)
      · exact hsteady ▸ hk

theorem Call.keyed_resume (p : Policy) (now : Timestamp) (c : Call) (slot : Nat) (reply : Reply)
    (hk : g.watchlist.Keyed) : (c.resume p now g slot reply).1.watchlist.Keyed := by
  by_cases hc : c.IsRecovery
  · cases c with
    | recover stage =>
        cases reply with
        | crashed crash => exact hk
        | _ => exact stage.keyed_resume hk
    | _ => exact hc.elim
  · exact (c.alters_resume p now g hc slot reply).keyed hk

end

namespace System

variable {p : Policy} {s : System}

theorem keyed_reply (hk : s.gateway.watchlist.Keyed) (now : Timestamp) (i slot : Nat)
    (reply : Reply) : (s.reply p now i slot reply).1.gateway.watchlist.Keyed := by
  cases hget : s.calls.get? i with
  | none =>
      simp only [System.reply, hget]
      exact hk
  | some c =>
      have hresume := c.keyed_resume p now slot reply hk
      simp only [System.reply, hget]
      split <;> rename_i hd <;> rw [hd] at hresume
      · exact hresume
      · rw [gateway_abandon]
        simp only [hget]
        exact (c.alters_abandon _).keyed hresume
      · exact hresume

theorem keyed_pass (hk : s.gateway.watchlist.Keyed) (m : Moment) :
    (s.pass p m).gateway.watchlist.Keyed := by
  obtain ⟨now, what⟩ := m
  cases what with
  | event e =>
      cases e with
      | start t =>
          have hstart := (Call.alters_start p now s.gateway t).keyed hk
          simp only [pass, step, start]
          split <;> rename_i hd <;> rw [hd] at hstart <;> exact hstart
      | reply i slot reply => exact keyed_reply hk now i slot reply
      | abandon i =>
          simp only [pass, step, gateway_abandon]
          split
          · exact hk
          · exact (Call.alters_abandon s.gateway _).keyed hk
  | evict olderThan =>
      simp only [pass]
      split
      · rename_i hevict
        exact (Gateway.evict_cases hevict).keyed hk
      · exact hk
  | close => exact hk

/-- Every record of a run stands under its own hash. -/
theorem keyed_after (p : Policy) (ms : List Moment) : (after p ms).gateway.watchlist.Keyed :=
  after_induction (P := fun s => s.gateway.watchlist.Keyed) ms Watchlist.keyed_empty
    fun m _ _ h => keyed_pass h m

end System

end TxGateway
