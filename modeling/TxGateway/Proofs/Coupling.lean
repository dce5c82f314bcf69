import TxGateway.Proofs.CallMoves
import TxGateway.Proofs.Calls
import TxGateway.Proofs.NoReuse

/-!
# Ledgers and what is in hand

In an orderly run no nonce is in two hands, and a nonce that is in hand cannot be handed out: it is
pending, or the chain has used it up. So it can be given back only by whoever has it. This holds for
every account for which the greatest nonce is never pending.
-/

namespace TxGateway

/-- Whether a moment sets going an orderly task, if it sets one going. -/
def Moment.IsOrderly (m : Moment) : Prop :=
  match m.what with
  | .event (.start t) => t.isOrderly = true
  | _ => True

namespace System

/-- A system in the middle of an orderly run. -/
abbrev Orderly (s : System) : Prop := s.CallsAre Call.Orderly

section

variable {s : System}

theorem sound_of_orderly (h : s.Orderly) : s.CallsAre Call.Sound :=
  ⟨fun i c hi => Call.sound_of_orderly (h.each i c hi), h.lt_opened⟩

theorem held_enroll (h : s.Orderly) (c : Call) : (s.enroll c).held = c.held + s.held :=
  Table.tally_set_of_none Call.held (h.get?_opened le_rfl) c

theorem held_enrollChores (h : s.Orderly) (cs : List Chore) :
    (s.enrollChores cs).1.held = (cs.map Chore.held).sum + s.held := by
  induction cs generalizing s with
  | nil => simp [enrollChores]
  | cons c cs ih =>
      have hc : (Call.chore c).Orderly := trivial
      simp only [enrollChores, ih (h.enroll hc), held_enroll h, List.map_cons, List.sum_cons]
      rw [← add_assoc, add_comm (cs.map Chore.held).sum]
      rfl

/-- Dropping a call is a move. -/
theorem move_abandon (h : s.Orderly) (i : Nat) :
    Move s.gateway (s.abandon i).1.gateway none s.held (s.abandon i).1.held := by
  simp only [abandon]
  split
  · exact .keep (.refl _) no_give_back le_rfl
  · rename_i c hget
    obtain ⟨rest, hall, -, herase⟩ := Table.exists_rest Call.held hget
    have hmove := (c.move_abandon s.gateway).frame rest
    have hleft := (h.erase i).withGateway (c.abandon s.gateway).1
    rw [gateway_enrollChores, held_enrollChores hleft, held, hall]
    rw [show ({ s with gateway := (c.abandon s.gateway).1, calls := s.calls.erase i } :
      System).held = rest from herase]
    exact hmove

theorem move_start (h : s.Orderly) (p : Policy) (now : Timestamp) {t : Task}
    (ht : t.isOrderly = true) :
    Move s.gateway (s.start p now t).1.gateway none s.held (s.start p now t).1.held := by
  have hstep := Call.proceeds_start p now s.gateway t ht
  simp only [start]
  split
  · rename_i g' c hc
    rw [hc] at hstep
    have hmove := hstep.1.frame s.held
    rw [zero_add] at hmove
    rw [held_enroll (h.withGateway g') c]
    exact hmove
  · rename_i g' ending hc
    rw [hc] at hstep
    cases ending with
    | returned r =>
        have hmove := Move.frame hstep s.held
        rw [zero_add] at hmove
        exact hmove
    | crashed crash =>
        rw [show g' = s.gateway from hstep.1]
        exact .keep (.refl _) no_give_back le_rfl

theorem move_reply (h : s.Orderly) (p : Policy) (now : Timestamp) (i slot : Nat) (r : Reply) :
    Move s.gateway (s.reply p now i slot r).1.gateway
      ((s.calls.get? i).bind (·.turn? slot r)) s.held (s.reply p now i slot r).1.held := by
  cases hget : s.calls.get? i with
  | none =>
      simp only [reply, hget]
      exact .keep (.refl _) no_give_back le_rfl
  | some c =>
      have hstep := c.proceeds_resume p now s.gateway (h.each i c hget) slot r
      obtain ⟨rest, hall, hset, herase⟩ := Table.exists_rest Call.held hget
      simp only [reply, hget, Option.bind_some]
      split
      · rename_i g' d hd
        rw [hd] at hstep
        have hmove := hstep.1.frame rest
        rw [← hall, ← hset] at hmove
        exact hmove
      · rename_i g' crash hd
        rw [hd] at hstep
        obtain ⟨rfl, hturn⟩ := hstep
        rw [hturn]
        exact move_abandon h i
      · rename_i g' ending hcrash hd
        rw [hd] at hstep
        cases ending with
        | returned result =>
            have hmove := Move.frame hstep rest
            rw [zero_add, ← hall, ← herase] at hmove
            exact hmove
        | crashed crash => exact absurd rfl (hcrash crash)

/-- Every moment of an orderly run is a move. -/
theorem move_pass (h : s.Orderly) (p : Policy) {m : Moment} (hm : m.IsOrderly) :
    Move s.gateway (s.pass p m).gateway (s.turn? m) s.held (s.pass p m).held := by
  obtain ⟨now, what⟩ := m
  cases what with
  | event e =>
      cases e with
      | start t => exact move_start h p now hm
      | reply i slot r => exact move_reply h p now i slot r
      | abandon i => exact move_abandon h i
  | evict olderThan =>
      simp only [pass]
      split
      · rename_i g' n hevict
        rcases Gateway.purged_of_evict hevict with rfl | ⟨cutoff, rfl⟩
        · exact .keep (.refl _) no_give_back le_rfl
        · exact .purge rfl rfl rfl
      · exact .keep (.refl _) no_give_back le_rfl
  | close => exact .keep ⟨rfl, rfl⟩ no_give_back le_rfl

/-- An orderly run stays orderly as long as orderly tasks are set going. -/
theorem orderly_pass (h : s.Orderly) (p : Policy) {m : Moment} (hm : m.IsOrderly) :
    (s.pass p m).Orderly := by
  apply h.pass p m fun _ => trivial
  · intro t d hwhat hd
    rw [Moment.IsOrderly, hwhat] at hm
    have hstep := Call.proceeds_start p m.now s.gateway t hm
    generalize Call.start p m.now s.gateway t = x at hd hstep
    obtain ⟨g', x⟩ := x
    cases hd
    exact hstep.2
  · intro i slot r c d _ _ hc hd
    have hstep := c.proceeds_resume p m.now s.gateway hc slot r
    generalize c.resume p m.now s.gateway slot r = x at hd hstep
    obtain ⟨g', x⟩ := x
    cases hd
    exact hstep.2

/-- All that is in hand: of calls, and of watched transactions. -/
def inHand (s : System) : Multiset Token := s.held + s.gateway.watchlist.held

theorem count_held_le (s : System) (x : Token) : s.held.count x ≤ s.inHand.count x :=
  Multiset.count_le_of_le x (Multiset.le_add_right _ _)

theorem count_watched_le (s : System) (x : Token) :
    s.gateway.watchlist.held.count x ≤ s.inHand.count x :=
  Multiset.count_le_of_le x (Multiset.le_add_left _ _)

/-- No serial number is in two hands, and those in hand have been issued. -/
structure Numbered (s : System) : Prop where
  /-- No serial number is in two hands. -/
  unique : ∀ id, s.inHand.count (.serial id) ≤ 1
  /-- A serial number in hand has been issued. -/
  lt_issued : ∀ id, .serial id ∈ s.inHand → id.serial < s.gateway.issued

/-- No nonce of an account is in two hands, and those in hand are secured in its ledger. -/
structure Coupled (s : System) (a : Address) : Prop where
  /-- No nonce is in two hands. -/
  unique : ∀ n, s.inHand.count (.nonce a n) ≤ 1
  /-- A nonce in hand cannot be handed out. -/
  secures : ∀ n, .nonce a n ∈ s.inHand → (s.book a).Secures n

theorem numbered_zero : ({} : System).Numbered where
  unique := fun _ => Nat.zero_le 1
  lt_issued := fun _ h => absurd h (Multiset.notMem_zero _)

theorem coupled_zero (a : Address) : ({} : System).Coupled a where
  unique := fun _ => Nat.zero_le 1
  secures := fun _ h => absurd h (Multiset.notMem_zero _)

theorem Numbered.pass (h : s.Numbered) (ho : s.Orderly) (p : Policy) {m : Moment}
    (hm : m.IsOrderly) : (s.pass p m).Numbered := by
  cases (move_pass ho p hm).exchange with
  | lose turn issued_eq le =>
      refine ⟨fun id => (Multiset.count_le_of_le _ le).trans (h.unique id), fun id hin => ?_⟩
      rw [issued_eq]
      exact h.lt_issued id (Multiset.mem_of_le le hin)
  | grant turn got issued_eq eq =>
      change (s.pass p m).inHand = _ ::ₘ s.inHand at eq
      refine ⟨fun id => ?_, fun id hin => ?_⟩
      · rw [eq, Multiset.count_cons_of_ne (by simp)]
        exact h.unique id
      · rw [eq] at hin
        rw [issued_eq]
        rcases Multiset.mem_cons.mp hin with heq | hwas
        · cases heq
        · exact h.lt_issued id hwas
  | back turn issued_eq eq =>
      change s.inHand = _ ::ₘ (s.pass p m).inHand at eq
      have hle : (s.pass p m).inHand ≤ s.inHand := eq ▸ Multiset.le_cons_self _ _
      refine ⟨fun id => (Multiset.count_le_of_le _ hle).trans (h.unique id), fun id hin => ?_⟩
      rw [issued_eq]
      exact h.lt_issued id (Multiset.mem_of_le hle hin)
  | issue turn issued_eq eq =>
      change (s.pass p m).inHand = _ ::ₘ s.inHand at eq
      refine ⟨fun id => ?_, fun id hin => ?_⟩
      · rw [eq, Multiset.count_cons]
        split
        · rename_i hnew
          cases hnew
          rw [Multiset.count_eq_zero_of_notMem fun hin => (h.lt_issued _ hin).ne rfl]
        · exact h.unique id
      · rw [eq] at hin
        rw [issued_eq]
        rcases Multiset.mem_cons.mp hin with heq | hwas
        · cases heq
          exact Nat.lt_succ_self _
        · exact Nat.lt_succ_of_lt (h.lt_issued id hwas)

variable {a : Address} {n : Nat}

/-- A nonce stays secured in a moment of an orderly run, unless it gets out of hand in it. -/
theorem Coupled.secures_pass (h : s.Coupled a) {p : Policy} {m : Moment}
    (hx : Exchange s.gateway (s.pass p m).gateway (s.turn? m) s.inHand (s.pass p m).inHand)
    (hk : (s.gateway.ledger a).Kept) (hn : (s.book a).Secures n)
    (hkeep : .nonce a n ∈ (s.pass p m).inHand ∨ .nonce a n ∉ s.inHand) :
    ((s.pass p m).book a).Secures n := by
  apply System.secures_pass hk hn
  rintro ⟨hturn, -⟩
  cases hx with
  | lose turn issued_eq le => exact turn a n hturn
  | grant turn got issued_eq eq =>
      rw [turn] at hturn
      cases hturn
  | back turn issued_eq eq =>
      rw [turn] at hturn
      cases hturn
      have hunique := h.unique n
      rw [eq] at hkeep hunique
      rcases hkeep with hkeep | hkeep
      · rw [Multiset.count_cons_self] at hunique
        have := Multiset.one_le_count_iff_mem.mpr hkeep
        omega
      · exact hkeep (Multiset.mem_cons_self _ _)
  | issue turn issued_eq eq =>
      rw [turn] at hturn
      cases hturn

theorem Coupled.pass (h : s.Coupled a) (ho : s.Orderly) (hk : (s.gateway.ledger a).Kept)
    (p : Policy) {m : Moment} (hm : m.IsOrderly) : (s.pass p m).Coupled a := by
  have hx := (move_pass ho p hm).exchange
  have hstay : ∀ n, .nonce a n ∈ (s.pass p m).inHand → .nonce a n ∈ s.inHand →
      ((s.pass p m).book a).Secures n := fun n hin hwas =>
    h.secures_pass hx hk (h.secures n hwas) (.inl hin)
  cases hx with
  | lose turn issued_eq le =>
      refine ⟨fun n => (Multiset.count_le_of_le _ le).trans (h.unique n), fun n hin => ?_⟩
      exact hstay n hin (Multiset.mem_of_le le hin)
  | @grant b choice k turn got issued_eq eq =>
      change (s.pass p m).inHand = _ ::ₘ s.inHand at eq
      by_cases hab : a = b
      · -- What is handed out was in nobody's hands, since it was not secured.
        subst hab
        have hfree := HandsOut.secures (p := p) ⟨choice, turn, got⟩ hk
        refine ⟨fun n => ?_, fun n hin => ?_⟩
        · rw [eq, Multiset.count_cons]
          split
          · rename_i hnew
            cases hnew
            rw [Multiset.count_eq_zero_of_notMem fun hin => hfree.1 (h.secures _ hin)]
          · exact h.unique n
        · have hcases := hin
          rw [eq] at hcases
          rcases Multiset.mem_cons.mp hcases with heq | hwas
          · cases heq
            exact hfree.2
          · exact hstay n hin hwas
      · have hne : ∀ n, Token.nonce a n ≠ .nonce b k := fun n heq => by
          cases heq
          exact hab rfl
        refine ⟨fun n => ?_, fun n hin => ?_⟩
        · rw [eq, Multiset.count_cons_of_ne (hne n)]
          exact h.unique n
        · have hcases := hin
          rw [eq] at hcases
          exact hstay n hin ((Multiset.mem_cons.mp hcases).resolve_left (hne n))
  | back turn issued_eq eq =>
      change s.inHand = _ ::ₘ (s.pass p m).inHand at eq
      have hle : (s.pass p m).inHand ≤ s.inHand := eq ▸ Multiset.le_cons_self _ _
      refine ⟨fun n => (Multiset.count_le_of_le _ hle).trans (h.unique n), fun n hin => ?_⟩
      exact hstay n hin (Multiset.mem_of_le hle hin)
  | issue turn issued_eq eq =>
      change (s.pass p m).inHand = _ ::ₘ s.inHand at eq
      refine ⟨fun n => ?_, fun n hin => ?_⟩
      · rw [eq, Multiset.count_cons_of_ne (by simp)]
        exact h.unique n
      · have hcases := hin
        rw [eq] at hcases
        exact hstay n hin ((Multiset.mem_cons.mp hcases).resolve_left (by simp))

end

/-- After every run the calls are in sound states. -/
theorem sound_after (p : Policy) (ms : List Moment) : (after p ms).CallsAre Call.Sound := by
  apply after_induction (P := fun s => s.CallsAre Call.Sound) ms callsAre_zero
  intro m _ s h
  apply h.pass p m fun _ => trivial
  · intro t d _ hd
    exact Call.sound_start p m.now s.gateway t hd
  · intro i slot r c d _ _ hc hd
    exact c.sound_resume p m.now s.gateway hc slot r hd

/-- An orderly run stays orderly at every moment. -/
theorem orderly_upTo {p : Policy} {ms : List Moment} (hms : ∀ m ∈ ms, m.IsOrderly) (k : Nat) :
    (upTo p ms k).Orderly :=
  after_induction (P := Orderly) _ callsAre_zero fun m hm _ h =>
    orderly_pass h p (hms m (List.mem_of_mem_take hm))

theorem orderly_after {p : Policy} {ms : List Moment} (hms : ∀ m ∈ ms, m.IsOrderly) :
    (after p ms).Orderly :=
  upTo_length p ms ▸ orderly_upTo hms ms.length

/-- At every moment of an orderly run each serial number is in one hand at most. -/
theorem numbered_upTo {p : Policy} {ms : List Moment} (hms : ∀ m ∈ ms, m.IsOrderly) (k : Nat) :
    (upTo p ms k).Numbered := by
  refine upTo_induction_fresh (P := Numbered) numbered_zero ?_ k
  intro k m hm hs
  rw [upTo_succ hm]
  exact hs.pass (orderly_upTo hms k) p (hms m (List.mem_of_getElem? hm))

/-- An orderly run in which the greatest nonce is never pending for an account. -/
structure IsRegular (p : Policy) (ms : List Moment) (a : Address) : Prop where
  /-- Only orderly tasks are set going. -/
  isOrderly : ∀ m ∈ ms, m.IsOrderly
  /-- There is room in the ledger. -/
  leavesRoom : LeavesRoom p ms a

section

variable {p : Policy} {ms : List Moment} {a : Address} (h : IsRegular p ms a)

include h

theorem IsRegular.kept (k : Nat) : ((upTo p ms k).gateway.ledger a).Kept := h.leavesRoom.kept k

theorem IsRegular.kept_after : ((after p ms).gateway.ledger a).Kept := h.leavesRoom.kept_after

theorem IsRegular.orderly (k : Nat) : (upTo p ms k).Orderly := orderly_upTo h.isOrderly k

theorem IsRegular.orderly_after : (after p ms).Orderly := System.orderly_after h.isOrderly

/-- At every moment of a regular run the ledger and the hands are coupled. -/
theorem IsRegular.coupled (k : Nat) : (upTo p ms k).Coupled a := by
  refine upTo_induction_fresh (P := fun s => s.Coupled a) (coupled_zero a) ?_ k
  intro k m hm hc
  rw [upTo_succ hm]
  exact hc.pass (h.orderly k) (h.kept k) p (h.isOrderly m (List.mem_of_getElem? hm))

theorem IsRegular.coupled_after : (after p ms).Coupled a :=
  upTo_length p ms ▸ h.coupled ms.length

theorem IsRegular.take (k : Nat) : IsRegular p (ms.take k) a where
  isOrderly := fun m hm => h.isOrderly m (List.mem_of_mem_take hm)
  leavesRoom := h.leavesRoom.take k

end

/-- The beginning of a regular run is one. -/
theorem IsRegular.of_append {p : Policy} {ms more : List Moment} {a : Address}
    (h : IsRegular p (ms ++ more) a) : IsRegular p ms a := by
  have hms := h.take ms.length
  rwa [List.take_left] at hms

end System

end TxGateway
