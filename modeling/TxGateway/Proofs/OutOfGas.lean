import TxGateway.GasPolicy

/-!
# When a reverted transaction has run out of gas

A mined transaction is confirmed if it succeeded. One that was reverted has run out of gas if it has
burnt strictly more than a percentage of its limit. Both sides of that comparison stop at the
greatest word. The side of the gas that was burnt may do so without consequence, since the other one
is less; where the side of the limit does, nothing exceeds it any more.
-/

namespace TxGateway

namespace Word

theorem toNat_greatest : greatest.toNat = Nat.pow 2 256 - 1 := by decide

theorem toNat_saturatingMul (a b : Word) :
    (saturatingMul a b).toNat = min (a.toNat * b.toNat) (Nat.pow 2 256 - 1) := by
  rw [saturatingMul, BitVec.toNat_ofNat, Nat.mod_eq_of_lt, toNat_greatest]
  exact Nat.lt_of_le_of_lt (Nat.min_le_right _ _) greatest.isLt

/-- A product that stops at the greatest word is below one that does exactly if the lesser product
is below the greater one and is itself less than the greatest word. -/
theorem saturatingMul_lt_iff (a b c d : Word) :
    (saturatingMul a b).toNat < (saturatingMul c d).toNat ↔
      a.toNat * b.toNat < Nat.pow 2 256 - 1 ∧ a.toNat * b.toNat < c.toNat * d.toNat := by
  rw [toNat_saturatingMul, toNat_saturatingMul]
  omega

end Word

namespace GasPolicy

/-- Whether an amount of gas is strictly more than a percentage of a limit that is not zero. -/
def Exceeds (percent limit used : Nat) : Prop := 0 < limit ∧ percent * limit < 100 * used

instance (percent limit used : Nat) : Decidable (Exceeds percent limit used) :=
  inferInstanceAs (Decidable (_ ∧ _))

theorem Exceeds.mono {percent limit used more : Nat} (h : Exceeds percent limit used)
    (hle : used ≤ more) : Exceeds percent limit more :=
  ⟨h.1, Nat.lt_of_lt_of_le h.2 (Nat.mul_le_mul_left 100 hle)⟩

variable {g : GasPolicy} {receipt : Receipt} {gasLimit : Word}

theorem classify_of_success (h : receipt.success = true) :
    g.classify receipt gasLimit = .confirmed receipt := by
  rw [classify, if_pos h]

/-- What becomes of a reverted transaction: whole numbers decide, as long as the percentage of the
limit is less than the greatest word. -/
theorem classify_of_reverted (hpercent : g.outOfGasPercent < Nat.pow 2 64) (gasLimit : Word)
    (h : receipt.success = false) :
    g.classify receipt gasLimit =
      if gasLimit.toNat * g.outOfGasPercent < Nat.pow 2 256 - 1 ∧
          Exceeds g.outOfGasPercent gasLimit.toNat receipt.gasUsed.toNat
      then .outOfGas receipt else .failed receipt := by
  have hword : (BitVec.ofNat 256 g.outOfGasPercent : Word).toNat = g.outOfGasPercent := by
    rw [BitVec.toNat_ofNat, Nat.mod_eq_of_lt]
    exact Nat.lt_trans hpercent (by decide)
  have hhundred : (BitVec.ofNat 256 100 : Word).toNat = 100 := by decide
  have hfalse : ¬ receipt.success = true := (Bool.not_eq_true _).mpr h
  by_cases hzero : gasLimit = 0
  · subst hzero
    have hnot : ¬ Exceeds g.outOfGasPercent (0 : Word).toNat receipt.gasUsed.toNat :=
      fun hno => Nat.lt_irrefl 0 hno.1
    rw [classify, if_neg hfalse, if_pos rfl, if_neg fun hno => hnot hno.2]
  · have hpos : 0 < gasLimit.toNat :=
      Nat.pos_of_ne_zero fun hno => hzero (BitVec.eq_of_toNat_eq hno)
    have hside : gasLimit.toNat * g.outOfGasPercent < receipt.gasUsed.toNat * 100 ↔
        Exceeds g.outOfGasPercent gasLimit.toNat receipt.gasUsed.toNat := by
      rw [Exceeds, and_iff_right hpos, Nat.mul_comm, Nat.mul_comm 100]
    simp only [classify, if_neg hfalse, if_neg hzero, Word.saturatingMul_lt_iff, hword, hhundred,
      hside]

/-- Below the greatest word only the comparison is left. -/
theorem classify_of_lt (hpercent : g.outOfGasPercent < Nat.pow 2 64)
    (h : receipt.success = false)
    (hlt : gasLimit.toNat * g.outOfGasPercent < Nat.pow 2 256 - 1) :
    g.classify receipt gasLimit =
      if Exceeds g.outOfGasPercent gasLimit.toNat receipt.gasUsed.toNat then .outOfGas receipt
      else .failed receipt := by
  simp only [classify_of_reverted hpercent gasLimit h, hlt, true_and]

/-- What a policy says about the mined transactions with a gas limit. -/
structure Classifies (g : GasPolicy) (gasLimit : Word) : Prop where
  /-- The receipt is handed on as it is. -/
  receipt_eq : ∀ receipt, (g.classify receipt gasLimit).receipt? = some receipt
  /-- Confirmed are the transactions that have succeeded. -/
  confirmed_iff : ∀ receipt,
    (∃ kept, g.classify receipt gasLimit = .confirmed kept) ↔ receipt.success = true
  /-- If the percentage of the limit is less than the greatest word, a reverted transaction has run
  out of gas exactly if it has burnt more than that percentage of its limit. -/
  outOfGas_iff : gasLimit.toNat * g.outOfGasPercent < Nat.pow 2 256 - 1 →
    ∀ receipt, receipt.success = false →
      ((∃ kept, g.classify receipt gasLimit = .outOfGas kept) ↔
        Exceeds g.outOfGasPercent gasLimit.toNat receipt.gasUsed.toNat)
  /-- Otherwise it has failed. -/
  failed_iff : gasLimit.toNat * g.outOfGasPercent < Nat.pow 2 256 - 1 →
    ∀ receipt, receipt.success = false →
      ((∃ kept, g.classify receipt gasLimit = .failed kept) ↔
        ¬ Exceeds g.outOfGasPercent gasLimit.toNat receipt.gasUsed.toNat)
  /-- If the percentage of the limit is the greatest word or more, a reverted transaction has
  failed whatever it has burnt. -/
  failed_of_greatest : Nat.pow 2 256 - 1 ≤ gasLimit.toNat * g.outOfGasPercent →
    ∀ receipt, receipt.success = false → g.classify receipt gasLimit = .failed receipt
  /-- What has run out of gas would have done so as well if it had burnt more. -/
  mono : ∀ (receipt : Receipt) (more : Word), receipt.gasUsed.toNat ≤ more.toNat →
    g.classify receipt gasLimit = .outOfGas receipt →
      g.classify { receipt with gasUsed := more } gasLimit =
        .outOfGas { receipt with gasUsed := more }

/-- In whole numbers, how every receipt is read with every gas limit and every percentage. -/
theorem classifies (g : GasPolicy) (hpercent : g.outOfGasPercent < Nat.pow 2 64)
    (gasLimit : Word) : g.Classifies gasLimit where
  receipt_eq receipt := by
    cases h : receipt.success with
    | true => rw [classify_of_success h, Status.receipt?]
    | false =>
        rw [classify_of_reverted hpercent gasLimit h]
        split <;> rfl
  confirmed_iff receipt := by
    cases h : receipt.success with
    | true => simp [classify_of_success h]
    | false =>
        rw [classify_of_reverted hpercent gasLimit h]
        split <;> simp
  outOfGas_iff hlt receipt h := by
    rw [classify_of_lt hpercent h hlt]
    split <;> simp [*]
  failed_iff hlt receipt h := by
    rw [classify_of_lt hpercent h hlt]
    split <;> simp [*]
  failed_of_greatest hle receipt h := by
    rw [classify_of_reverted hpercent gasLimit h, if_neg]
    exact fun hno => absurd hno.1 (Nat.not_lt.mpr hle)
  mono receipt more hle hout := by
    by_cases hsuccess : receipt.success = true
    · rw [classify_of_success hsuccess] at hout
      cases hout
    · have h : receipt.success = false := (Bool.not_eq_true _).mp hsuccess
      rw [classify_of_reverted hpercent gasLimit h] at hout
      split at hout
      · rename_i hover
        have hmore : ({ receipt with gasUsed := more } : Receipt).success = false := h
        rw [classify_of_reverted hpercent gasLimit hmore, if_pos ⟨hover.1, hover.2.mono hle⟩]
      · cases hout

/-- A limit of which ninety percent is just less than the greatest word. A reverted transaction that
has burnt the greatest word, a hundred times of which is no word, has run out of gas; with one unit
more in the limit it has not. -/
theorem classifies_about_greatest :
    let policy : GasPolicy := {}
    let last : Word := BitVec.ofNat 256 (Nat.pow 2 256 / 90)
    let receipt : Receipt := ⟨none, Word.greatest, false, none⟩
    policy.outOfGasPercent < Nat.pow 2 64 ∧ policy.classify receipt last = .outOfGas receipt ∧
      policy.classify receipt (last + 1) = .failed receipt := by
  intro policy last receipt
  have hpercent : policy.outOfGasPercent < Nat.pow 2 64 := by decide
  have hlast : last.toNat * policy.outOfGasPercent < Nat.pow 2 256 - 1 := by decide
  have hbeyond : Nat.pow 2 256 - 1 ≤ (last + 1).toNat * policy.outOfGasPercent := by decide
  obtain ⟨kept, hkept⟩ := ((classifies policy hpercent last).outOfGas_iff hlast receipt rfl).mpr
    ⟨by decide, by decide⟩
  have hreceipt := (classifies policy hpercent last).receipt_eq receipt
  rw [hkept] at hreceipt
  obtain rfl := Option.some.inj hreceipt
  exact ⟨hpercent, hkept, (classifies policy hpercent (last + 1)).failed_of_greatest hbeyond _ rfl⟩

end GasPolicy

end TxGateway
