import TxGateway.Hex

/-!
# 256-bit words

Amounts, prices and gas are words. Sums and products that leave the range have no value; a
saturating product stops at the greatest word.
-/

namespace TxGateway

/-- A number below `2 ^ 256`. -/
abbrev Word := BitVec 256

namespace Word

/-- The greatest word. -/
def greatest : Word := BitVec.allOnes 256

/-- The word of a number, if it is in range. -/
def ofNat? (n : Nat) : Option Word :=
  if n < Nat.pow 2 256 then some (BitVec.ofNat 256 n) else none

/-- The sum, if it is in range. -/
def add? (a b : Word) : Option Word := ofNat? (a.toNat + b.toNat)

/-- The product, if it is in range. -/
def mul? (a b : Word) : Option Word := ofNat? (a.toNat * b.toNat)

/-- The product, or the greatest word where the product is beyond it. -/
def saturatingMul (a b : Word) : Word :=
  BitVec.ofNat 256 (min (a.toNat * b.toNat) greatest.toNat)

/-- The 32 bytes of a word. -/
def toBytes (w : Word) : Bytes := Bytes.ofNat 32 w.toNat

/-- The written form of a word. -/
def text (w : Word) : String := Hex.quantity w.toNat

theorem ofNat?_eq_some_iff {n : Nat} {w : Word} : ofNat? n = some w ↔ w.toNat = n := by
  constructor
  · intro h
    unfold ofNat? at h
    split at h
    · rename_i hlt
      cases h
      rw [BitVec.toNat_ofNat, Nat.mod_eq_of_lt hlt]
    · cases h
  · rintro rfl
    rw [ofNat?, if_pos w.isLt, BitVec.ofNat_toNat, BitVec.setWidth_eq]

end Word

end TxGateway
