import TxGateway.Http.Exchange
import Mathlib.Data.List.Forall2
import Mathlib.Data.List.Induction
import Mathlib.Data.Nat.Digits.Defs
import Mathlib.Tactic.IntervalCases

/-!
# Which texts are amounts

An amount is written in decimal digits, or behind `0x` in up to 64 hexadecimal ones. Every text of
this grammar is read, if its value is a word, and with that value. Beyond the grammar the empty text
is taken for zero, and so is a mark without digits; and a second mark may follow the first. An
approval with any other text is refused before a submission begins.
-/

namespace TxGateway.Http

namespace Amount

/-- A character stands for a digit in a base up to sixteen, in lower or in upper case. -/
def IsDigit (base : Nat) (c : Char) (d : Nat) : Prop :=
  d < base ∧ ("0123456789abcdef".toList[d]? = some c ∨ "0123456789ABCDEF".toList[d]? = some c)

/-- Characters write a number in a base, the least significant digit last. -/
def Writes (base : Nat) (cs : List Char) (n : Nat) : Prop :=
  ∃ ds, List.Forall₂ (IsDigit base) cs.reverse ds ∧ Nat.ofDigits base ds = n

/-- The number that a text denotes as an amount. -/
inductive Denotes : List Char → Nat → Prop
  /-- Decimal digits, at least one. -/
  | decimal {cs : List Char} {n : Nat} (nonempty : cs ≠ []) (writes : Writes 10 cs n) : Denotes cs n
  /-- Hexadecimal digits behind a mark, at least one and at most 64. -/
  | hexadecimal {cs : List Char} {n : Nat} (nonempty : cs ≠ []) (length_le : cs.length ≤ 64)
      (writes : Writes 16 cs n) : Denotes ('0' :: 'x' :: cs) n

/-- The number for which a text is taken though it is not written as an amount. -/
inductive TakenFor : List Char → Nat → Prop
  /-- There is no text. -/
  | empty : TakenFor [] 0
  /-- No digit follows the mark. -/
  | mark : TakenFor ['0', 'x'] 0
  /-- A second mark follows the first, and up to 64 hexadecimal digits, or none, follow that. -/
  | marks {cs : List Char} {n : Nat} (length_le : cs.length ≤ 64) (writes : Writes 16 cs n) :
      TakenFor ('0' :: 'x' :: '0' :: 'x' :: cs) n

theorem writes_nil_iff {base n : Nat} : Writes base [] n ↔ n = 0 := by
  simp [Writes, eq_comm]

/-- One digit more stands for the number so far, times the base, and the digit. -/
theorem writes_append_singleton_iff {base n : Nat} {cs : List Char} {c : Char} :
    Writes base (cs ++ [c]) n ↔
      ∃ m d, Writes base cs m ∧ IsDigit base c d ∧ n = m * base + d := by
  simp only [Writes, List.reverse_append, List.reverse_singleton, List.singleton_append,
    List.forall₂_cons_left_iff]
  constructor
  · rintro ⟨_, ⟨d, ds, hd, hds, rfl⟩, rfl⟩
    refine ⟨_, d, ⟨ds, hds, rfl⟩, hd, ?_⟩
    rw [Nat.ofDigits_cons, Nat.mul_comm, Nat.add_comm]
  · rintro ⟨_, d, ⟨ds, hds, rfl⟩, hd, rfl⟩
    refine ⟨d :: ds, ⟨d, ds, hd, hds, rfl⟩, ?_⟩
    rw [Nat.ofDigits_cons, Nat.mul_comm, Nat.add_comm]

/-- A number is less than a power of its base. -/
theorem Writes.lt_pow {base n : Nat} {cs : List Char} (h : Writes base cs n) (hbase : 1 < base) :
    n < base ^ cs.length := by
  obtain ⟨ds, hds, rfl⟩ := h
  rw [← cs.length_reverse, hds.length_eq]
  refine Nat.ofDigits_lt_base_pow_length hbase fun d hd => ?_
  obtain ⟨k, hk, rfl⟩ := List.getElem_of_mem hd
  exact (hds.get (by rwa [hds.length_eq]) hk).1

/-- No number is written with the second character of the mark. -/
theorem Writes.not_mem {base n : Nat} {cs : List Char} (h : Writes base cs n) : 'x' ∉ cs := by
  obtain ⟨ds, hds, -⟩ := h
  intro hx
  obtain ⟨k, hk, heq⟩ := List.getElem_of_mem (List.mem_reverse.mpr hx)
  have hdigit := hds.get hk (by rwa [← hds.length_eq])
  rw [List.get_eq_getElem, heq] at hdigit
  rcases hdigit.2 with hlower | hupper
  · exact absurd (List.mem_of_getElem? hlower) (by decide)
  · exact absurd (List.mem_of_getElem? hupper) (by decide)

theorem Writes.dropMark_eq {base n : Nat} {cs : List Char} (h : Writes base cs n) :
    Hex.dropMark cs = cs := by
  unfold Hex.dropMark
  split
  · exact absurd (by simp) h.not_mem
  · rfl

instance (base : Nat) (c : Char) (d : Nat) : Decidable (IsDigit base c d) :=
  inferInstanceAs (Decidable (_ ∧ _))

/-- What holds of every number in a range of characters holds of the characters. -/
theorem forall_range {P : Char → Prop} {low high c : Char} (hc : low ≤ c ∧ c ≤ high)
    (h : ∀ k ≤ high.toNat, low.toNat ≤ k → P (Char.ofNat k)) : P c :=
  c.ofNat_toNat ▸ h c.toNat hc.2 hc.1

theorem isDigit_ten_iff {c : Char} {d : Nat} :
    IsDigit 10 c d ↔ c.isDigit = true ∧ d = c.toNat - '0'.toNat := by
  constructor
  · rintro ⟨hd, hc⟩
    interval_cases d <;> simp at hc <;> subst hc <;> decide
  · rintro ⟨hc, rfl⟩
    simp only [Char.isDigit, Bool.and_eq_true, decide_eq_true_eq] at hc
    have hrange : '0' ≤ c ∧ c ≤ '9' := hc
    apply forall_range hrange
    decide

theorem isDigit_sixteen_iff {c : Char} {d : Nat} : IsDigit 16 c d ↔ Hex.digit? c = some d := by
  constructor
  · rintro ⟨hd, hc⟩
    interval_cases d <;> simp at hc <;> first | subst hc | (rcases hc with hc | hc <;> subst hc)
    all_goals decide
  · intro h
    rw [Hex.digit?] at h
    split at h
    · rename_i hc
      obtain rfl := Option.some.inj h
      apply forall_range hc
      decide
    · split at h
      · rename_i hc
        obtain rfl := Option.some.inj h
        apply forall_range hc
        decide
      · split at h
        · rename_i hc
          obtain rfl := Option.some.inj h
          apply forall_range hc
          decide
        · cases h

theorem decimal?_eq_some_iff {cs : List Char} {n : Nat} :
    decimal? cs = some n ↔ Writes 10 cs n := by
  induction cs using List.reverseRecOn generalizing n with
  | nil => simp [decimal?, writes_nil_iff, eq_comm]
  | append_singleton cs c ih =>
      rw [writes_append_singleton_iff]
      simp only [← ih, isDigit_ten_iff, decimal?, List.all_append, List.foldl_append]
      by_cases hcs : cs.all Char.isDigit = true <;> by_cases hc : c.isDigit = true <;>
        simp [hcs, hc, eq_comm]

theorem value_of_mapM {cs : List Char} {n : Nat} :
    (cs.mapM Hex.digit?).map Hex.value = some n ↔ Writes 16 cs n := by
  induction cs using List.reverseRecOn generalizing n with
  | nil => simp [writes_nil_iff, Hex.value, eq_comm]
  | append_singleton cs c ih =>
      rw [writes_append_singleton_iff]
      simp only [← ih, isDigit_sixteen_iff, List.mapM_append]
      cases hcs : cs.mapM Hex.digit? <;> cases hc : Hex.digit? c <;>
        simp [hc, Hex.value, eq_comm]

theorem hexadecimal?_eq_some_iff {cs : List Char} {n : Nat} : hexadecimal? cs = some n ↔
    (Hex.dropMark cs).length ≤ 64 ∧ Writes 16 (Hex.dropMark cs) n := by
  simp only [hexadecimal?]
  split
  · rename_i hle
    rw [value_of_mapM, and_iff_right hle]
  · rename_i hle
    simp [hle]

/-- What stands behind the mark. -/
theorem hexadecimal?_eq_some_iff_denotes {rest : List Char} {n : Nat} :
    hexadecimal? rest = some n ↔
      Denotes ('0' :: 'x' :: rest) n ∨ TakenFor ('0' :: 'x' :: rest) n := by
  rw [hexadecimal?_eq_some_iff]
  constructor
  · intro h
    unfold Hex.dropMark at h
    split at h
    · exact .inr (.marks h.1 h.2)
    · by_cases hrest : rest = []
      · subst hrest
        obtain rfl := writes_nil_iff.mp h.2
        exact .inr .mark
      · exact .inl (.hexadecimal hrest h.1 h.2)
  · rintro (hdenotes | htaken)
    · cases hdenotes with
      | decimal nonempty writes => exact absurd (by simp) writes.not_mem
      | hexadecimal nonempty length_le writes =>
          rw [writes.dropMark_eq]
          exact ⟨length_le, writes⟩
    · cases htaken with
      | mark => exact ⟨Nat.zero_le _, writes_nil_iff.mpr rfl⟩
      | marks length_le writes => exact ⟨length_le, writes⟩

/-- A text without a mark. -/
theorem decimal?_eq_some_iff_denotes {cs : List Char} {n : Nat}
    (hmark : ∀ rest, cs ≠ '0' :: 'x' :: rest) :
    decimal? cs = some n ↔ Denotes cs n ∨ TakenFor cs n := by
  rw [decimal?_eq_some_iff]
  constructor
  · intro hwrites
    by_cases hcs : cs = []
    · subst hcs
      obtain rfl := writes_nil_iff.mp hwrites
      exact .inr .empty
    · exact .inl (.decimal hcs hwrites)
  · rintro (hdenotes | htaken)
    · cases hdenotes with
      | decimal nonempty writes => exact writes
      | hexadecimal nonempty length_le writes => exact absurd rfl (hmark _)
    · cases htaken with
      | empty => exact writes_nil_iff.mpr rfl
      | mark => exact absurd rfl (hmark _)
      | marks length_le writes => exact absurd rfl (hmark _)

/-- A text is read as a word exactly if it denotes the value of the word, or is taken for it. -/
theorem ofText?_eq_some_iff {s : String} {w : Word} :
    ofText? s = some w ↔ Denotes s.toList w.toNat ∨ TakenFor s.toList w.toNat := by
  have hbind : ∀ o : Option Nat, o.bind Word.ofNat? = some w ↔ o = some w.toNat := by
    intro o
    simp [Option.bind_eq_some_iff, Word.ofNat?_eq_some_iff]
  unfold ofText?
  split
  · rename_i rest hs
    rw [hbind, hs, hexadecimal?_eq_some_iff_denotes]
  · rename_i hmark
    rw [hbind, decimal?_eq_some_iff_denotes hmark]

/-- A text denotes one number at most. -/
theorem Denotes.unique {cs : List Char} {m n : Nat} (hm : Denotes cs m) (hn : Denotes cs n) :
    m = n := by
  cases hm with
  | decimal _ hm =>
      cases hn with
      | decimal _ hn =>
          rw [← decimal?_eq_some_iff] at hm hn
          exact Option.some.inj (hm.symm.trans hn)
      | hexadecimal _ _ _ => exact absurd (by simp) hm.not_mem
  | hexadecimal _ _ hm =>
      cases hn with
      | decimal _ hn => exact absurd (by simp) hn.not_mem
      | hexadecimal _ _ hn =>
          exact Option.some.inj ((value_of_mapM.mpr hm).symm.trans (value_of_mapM.mpr hn))

/-- Behind a mark there is no number beyond the words. -/
theorem Denotes.lt_of_mark {cs : List Char} {n : Nat} (h : Denotes ('0' :: 'x' :: cs) n) :
    n < Nat.pow 2 256 := by
  cases h with
  | decimal _ writes => exact absurd (by simp) writes.not_mem
  | hexadecimal _ length_le writes =>
      calc n < 16 ^ cs.length := writes.lt_pow (by decide)
        _ ≤ 16 ^ 64 := Nat.pow_le_pow_right (by decide) length_le
        _ = Nat.pow 2 256 := by decide

/-- A text that is only taken for a number denotes none. -/
theorem TakenFor.not_denotes {cs : List Char} {n : Nat} (h : TakenFor cs n) (m : Nat) :
    ¬ Denotes cs m := by
  intro hdenotes
  cases h with
  | empty =>
      cases hdenotes with
      | decimal nonempty writes => exact nonempty rfl
  | mark =>
      cases hdenotes with
      | decimal nonempty writes => exact writes.not_mem (by simp)
      | hexadecimal nonempty length_le writes => exact nonempty rfl
  | marks _ _ =>
      cases hdenotes with
      | decimal nonempty writes => exact writes.not_mem (by simp)
      | hexadecimal nonempty length_le writes => exact writes.not_mem (by simp)

end Amount

/-- A request asks for an approval. -/
structure Inquiry.AsksFor (q : Inquiry) (a : Approval) : Prop where
  /-- It goes to the resource for approvals. -/
  resource_eq : Resource.ofSegments? (Target.segments q.target) = some .approval
  /-- It is of the method that this resource takes. -/
  method_eq : q.method = "POST"
  /-- Its body describes the approval. -/
  body_eq : approval? q = .ok a

/-- What a request for an approval leads to depends on the approval alone. -/
theorem Inquiry.AsksFor.handle_eq {q : Inquiry} {a : Approval} (h : q.AsksFor a) (p : Policy)
    (now : Timestamp) (g : Gateway) : handle p now g q = approve a := by
  have htakes : Resource.approval.takes q.method = true := by
    simp [Resource.takes, h.method_eq]
  have hbodyless : (q.method == "HEAD") = false := by simp [h.method_eq]
  simp only [handle, h.resource_eq, htakes, serve, h.body_eq, hbodyless, Bool.not_true,
    Bool.false_eq_true, if_false]
  split
  · rename_i heq
    exact heq.symm
  · rfl

/-- Which texts are read as amounts, and what becomes of an approval with a text for its amount. -/
structure AmountsRead (p : Policy) (now : Timestamp) (g : Gateway) : Prop where
  /-- A text is read exactly if it denotes a word, and with that value, or is taken for a word. -/
  read_iff : ∀ (s : String) (w : Word), Amount.ofText? s = some w ↔
    Amount.Denotes s.toList w.toNat ∨ Amount.TakenFor s.toList w.toNat
  /-- A text denotes one number at most. -/
  denotes_unique : ∀ cs m n, Amount.Denotes cs m → Amount.Denotes cs n → m = n
  /-- What a text with a mark denotes is a word. -/
  lt_of_mark : ∀ cs n, Amount.Denotes ('0' :: 'x' :: cs) n → n < Nat.pow 2 256
  /-- A text that is only taken for a number denotes none. -/
  takenFor_not_denotes : ∀ cs n, Amount.TakenFor cs n → ∀ m, ¬ Amount.Denotes cs m
  /-- With an amount that is read, a submission begins. -/
  submits : ∀ (q : Inquiry) (a : Approval) (raw : String) (w : Word), q.AsksFor a →
    a.amount = some raw → Amount.Denotes raw.toList w.toNat ∨ Amount.TakenFor raw.toList w.toNat →
      handle p now g q =
        .pending (.submit (a.request (some w))) (.approval a.token a.spender w) false
  /-- With any other text the request is answered with a refusal, and nothing is set going. -/
  refuses : ∀ (q : Inquiry) (a : Approval) (raw : String), q.AsksFor a → a.amount = some raw →
    (∀ w : Word, ¬ Amount.Denotes raw.toList w.toNat ∧ ¬ Amount.TakenFor raw.toList w.toNat) →
      handle p now g q = .answered (.error 400 ("invalid amount: " ++ raw) false)

theorem amounts_read (p : Policy) (now : Timestamp) (g : Gateway) : AmountsRead p now g where
  read_iff _ _ := Amount.ofText?_eq_some_iff
  denotes_unique _ _ _ := Amount.Denotes.unique
  lt_of_mark _ _ := Amount.Denotes.lt_of_mark
  takenFor_not_denotes _ _ := Amount.TakenFor.not_denotes
  submits q a raw w hq hraw hw := by
    rw [← Amount.ofText?_eq_some_iff] at hw
    simp only [hq.handle_eq, approve, hraw, hw, Option.getD_some]
  refuses q a raw hq hraw hno := by
    have hnone : Amount.ofText? raw = none := by
      rw [Option.eq_none_iff_forall_ne_some]
      intro w hw
      rcases Amount.ofText?_eq_some_iff.mp hw with hdenotes | htaken
      · exact (hno w).1 hdenotes
      · exact (hno w).2 htaken
    simp only [hq.handle_eq, approve, hraw, hnone, Response.invalid]
    rfl

/-- The empty text, the mark alone and two marks denote no number; but an approval of each of these
amounts begins a submission. -/
theorem approved_beyond_grammar :
    let approval (amount : String) : Approval := ⟨⟨1⟩, ⟨2⟩, ⟨3⟩, some amount, none, none⟩
    let begins (amount : String) (w : Word) : Prop := approve (approval amount) =
      .pending (.submit ((approval amount).request (some w))) (.approval ⟨2⟩ ⟨3⟩ w) false
    ((∀ n, ¬ Amount.Denotes "".toList n) ∧ begins "" 0) ∧
      ((∀ n, ¬ Amount.Denotes "0x".toList n) ∧ begins "0x" 0) ∧
      (∀ n, ¬ Amount.Denotes "0x0x10".toList n) ∧ begins "0x0x10" 16 := by
  intro approval begins
  have htwice : Amount.TakenFor "0x0x10".toList 16 :=
    .marks (by decide) (Amount.value_of_mapM.mp (by decide))
  exact ⟨⟨Amount.TakenFor.empty.not_denotes, rfl⟩, ⟨Amount.TakenFor.mark.not_denotes, rfl⟩,
    htwice.not_denotes, rfl⟩

end TxGateway.Http
