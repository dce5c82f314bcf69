import TxGateway.Address
import Mathlib.Tactic.IntervalCases
import Mathlib.Tactic.Ring

/-!
# What is written in hexadecimal digits is read again

A byte string is written in two digits for each byte and a quantity without leading zeros. The
strict reading of a byte string and the packed reading of a quantity give back what was written, so
accounts and hashes are known by their written form.
-/

namespace TxGateway

namespace Hex

theorem digit?_digit {n : Nat} (h : n < 16) : digit? (digit n) = some n := by
  interval_cases n <;> decide

theorem isBlank_digit {n : Nat} (h : n < 16) : isBlank (digit n) = false := by
  interval_cases n <;> decide

theorem toList_text (bs : Bytes) : (text bs).toList = '0' :: 'x' :: ofBytes bs := by
  simp [text]

theorem toList_quantity (n : Nat) : (quantity n).toList = '0' :: 'x' :: digits n := by
  simp [quantity]

/-- Two digits are read as one byte. -/
theorem nextByte_cons_cons (position : Nat) {high low : Nat} (hhigh : high < 16) (hlow : low < 16)
    (rest : List Char) :
    ∃ position', nextByte position none (digit high :: digit low :: rest) =
      .byte (UInt8.ofNat (high * 16 + low)) position' rest := by
  simp [nextByte, isBlank_digit hhigh, isBlank_digit hlow, digit?_digit hhigh, digit?_digit hlow]

theorem ofNat_halves (b : UInt8) : UInt8.ofNat (b.toNat / 16 * 16 + b.toNat % 16) = b := by
  rw [Nat.div_add_mod', UInt8.ofNat_toNat]

theorem readBytes_ofBytes (position : Nat) (bs : Bytes) :
    readBytes position bs.length (ofBytes bs) = .ok bs := by
  induction bs generalizing position with
  | nil => rfl
  | cons b bs ih =>
      have hhigh : b.toNat / 16 < 16 := Nat.div_lt_of_lt_mul b.toNat_lt
      have hlow : b.toNat % 16 < 16 := Nat.mod_lt _ (by decide)
      obtain ⟨position', hnext⟩ := nextByte_cons_cons position hhigh hlow (ofBytes bs)
      have hcons : ofBytes (b :: bs) =
        digit (b.toNat / 16) :: digit (b.toNat % 16) :: ofBytes bs := rfl
      simp only [List.length_cons, readBytes, hcons, hnext, ofNat_halves, ih, Except.map]

/-- The strict reading gives back the bytes that were written. -/
theorem read_text (bs : Bytes) : read bs.length (text bs) = .ok bs := by
  rw [read, toList_text, dropMark, readBytes_ofBytes]

theorem digits_ne_nil (n : Nat) : digits n ≠ [] := by
  rw [digits]
  split <;> simp

theorem length_digits_le {n width : Nat} (hwidth : 0 < width) (h : n < 16 ^ width) :
    (digits n).length ≤ width := by
  induction n using Nat.strongRecOn generalizing width with
  | ind n ih =>
      rw [digits]
      split
      · exact hwidth
      · rename_i hn
        obtain ⟨w, rfl⟩ : ∃ w, width = w + 1 := ⟨width - 1, by omega⟩
        have hpos : 0 < w := by
          refine Nat.pos_of_ne_zero fun hzero => hn ?_
          rwa [hzero] at h
        have hdiv : n / 16 < 16 ^ w := Nat.div_lt_of_lt_mul (by rwa [Nat.pow_succ'] at h)
        rw [List.length_append, List.length_singleton]
        exact Nat.succ_le_succ (ih (n / 16) (by omega) hpos hdiv)

theorem digitValues?_append_digit {cs : List Char} {ds : List Nat} {n : Nat} (hn : n < 16)
    (h : digitValues? cs = some ds) : digitValues? (cs ++ [digit n]) = some (ds ++ [n]) := by
  induction cs generalizing ds with
  | nil =>
      cases h
      simp [digitValues?, isBlank_digit hn, digit?_digit hn]
  | cons c cs ih =>
      rw [digitValues?] at h
      rw [List.cons_append, digitValues?]
      by_cases hblank : isBlank c = true
      · rw [if_pos hblank] at h ⊢
        exact ih h
      · rw [if_neg hblank] at h ⊢
        cases hc : digit? c with
        | none =>
            rw [hc] at h
            cases h
        | some d =>
            rw [hc] at h
            obtain ⟨tail, htail, rfl⟩ := Option.map_eq_some_iff.mp h
            simp [ih htail]

/-- The digit values of a quantity: as many as digits, and together the number. -/
theorem exists_digitValues?_digits (n : Nat) :
    ∃ ds, digitValues? (digits n) = some ds ∧ ds.length = (digits n).length ∧
      (∀ d ∈ ds, d < 16) ∧ value ds = n := by
  induction n using Nat.strongRecOn with
  | ind n ih =>
      rw [digits]
      split
      · rename_i hn
        refine ⟨[n], ?_, rfl, ?_, ?_⟩
        · simp [digitValues?, isBlank_digit hn, digit?_digit hn]
        · simpa using hn
        · simp [value]
      · obtain ⟨ds, hds, hlength, hlt, hvalue⟩ := ih (n / 16) (by omega)
        have hlow : n % 16 < 16 := Nat.mod_lt _ (by decide)
        refine ⟨ds ++ [n % 16], digitValues?_append_digit hlow hds, by simp [hlength], ?_, ?_⟩
        · intro d hd
          rcases List.mem_append.mp hd with hd | hd
          · exact hlt d hd
          · rw [List.mem_singleton.mp hd]
            exact hlow
        · rw [value, List.foldl_append, ← value, hvalue]
          exact Nat.div_add_mod' n 16

/-- An even number of digits makes bytes that denote the same number. -/
theorem foldl_pairs : ∀ (ds : List Nat) (n : Nat), ds.length % 2 = 0 → (∀ d ∈ ds, d < 16) →
    (pairs ds).foldl (fun n b => n * 256 + b.toNat) n = ds.foldl (fun n d => n * 16 + d) n
  | [], _, _, _ => rfl
  | [d], _, h, _ => absurd h (by simp)
  | high :: low :: rest, n, h, hlt => by
      have hhigh : high < 16 := hlt high (by simp)
      have hlow : low < 16 := hlt low (by simp)
      have hbyte : (UInt8.ofNat (high * 16 + low)).toNat = high * 16 + low := by
        rw [UInt8.toNat_ofNat']
        omega
      have hstep : n * 256 + (high * 16 + low) = (n * 16 + high) * 16 + low := by ring
      rw [pairs, List.foldl_cons, List.foldl_cons, List.foldl_cons, hbyte, hstep]
      have hrest : rest.length % 2 = 0 := by
        simp only [List.length_cons] at h
        omega
      exact foldl_pairs rest _ hrest fun d hd => hlt d (by simp [hd])

/-- The packed reading of digits without blanks gives their value. -/
theorem packed?_eq_some {cs : List Char} {ds : List Nat} (h : digitValues? cs = some ds)
    (hlength : ds.length = cs.length) (hlt : ∀ d ∈ ds, d < 16) :
    (packed? cs).map Bytes.toNat = some (value ds) := by
  rw [packed?, h, Option.map_some, Option.map_some]
  congr 1
  split
  · rename_i heven
    exact foldl_pairs ds 0 (hlength ▸ heven) hlt
  · rename_i hodd
    cases ds with
    | nil => exact absurd (by rw [← hlength]; rfl) hodd
    | cons d rest =>
        have hd : (UInt8.ofNat d).toNat = d := by
          have hlt : d < 16 := hlt d (by simp)
          rw [UInt8.toNat_ofNat']
          omega
        have hrest : rest.length % 2 = 0 := by
          rw [← hlength, List.length_cons] at hodd
          omega
        rw [Bytes.toNat, List.foldl_cons, hd]
        exact foldl_pairs rest _ hrest fun e he => hlt e (by simp [he])

/-- The packed reading gives back a quantity that fits. -/
theorem packedNat?_quantity {n width : Nat} (hwidth : 0 < width) (h : n < 16 ^ (2 * width)) :
    packedNat? width (quantity n) = some n := by
  obtain ⟨ds, hds, hlength, hlt, hvalue⟩ := exists_digitValues?_digits n
  have hpos : 0 < (digits n).length := List.length_pos_iff.mpr (digits_ne_nil n)
  have hle : (digits n).length ≤ 2 * width := length_digits_le (by omega) h
  simp only [packedNat?, toList_quantity, dropMark]
  rw [if_pos ⟨hpos, hle⟩, packed?_eq_some hds hlength hlt, hvalue]

end Hex

theorem Bytes.toNat_ofNat_of_lt {width n : Nat} (h : n < 256 ^ width) :
    toNat (ofNat width n) = n := by
  rw [toNat_ofNat, Nat.pow_eq, Nat.mod_eq_of_lt h]

namespace Address

theorem ofBytes_toBytes (a : Address) : ofBytes a.toBytes = a := by
  rw [ofBytes, toBytes, Bytes.toNat_ofNat_of_lt a.bits.isLt, BitVec.ofNat_toNat,
    BitVec.setWidth_eq]

/-- An account is read from its written form. -/
theorem read_text (a : Address) : read a.text = .ok a := by
  have hread := Hex.read_text a.toBytes
  rw [show a.toBytes.length = 20 from Bytes.ofNat_length _ _] at hread
  rw [read, text, hread, Except.map, ofBytes_toBytes]

end Address

namespace TxHash

theorem ofBytes_toBytes (h : TxHash) : ofBytes h.toBytes = h := by
  rw [ofBytes, toBytes, Bytes.toNat_ofNat_of_lt h.bits.isLt, BitVec.ofNat_toNat,
    BitVec.setWidth_eq]

/-- A hash is read from its written form. -/
theorem read_text (h : TxHash) : read h.text = .ok h := by
  have hread := Hex.read_text h.toBytes
  rw [show h.toBytes.length = 32 from Bytes.ofNat_length _ _] at hread
  rw [read, text, hread, Except.map, ofBytes_toBytes]

end TxHash

/-- A word is read from its written form. -/
theorem Word.packedNat?_text (w : Word) : Hex.packedNat? 32 w.text = some w.toNat :=
  Hex.packedNat?_quantity (by decide) w.isLt

end TxGateway
