/-!
# Byte strings

Big-endian numerals of a fixed width and of the least width, and the number that a byte string
denotes.
-/

namespace TxGateway

/-- A finite sequence of octets. -/
abbrev Bytes := List UInt8

namespace Bytes

/-- The number that a big-endian byte string denotes. -/
def toNat (bs : Bytes) : Nat :=
  bs.foldl (fun n b => n * 256 + b.toNat) 0

/-- The last `width` base-256 digits of a number, most significant first. -/
def ofNat : (width : Nat) → (n : Nat) → Bytes
  | 0, _ => []
  | width + 1, n => ofNat width (n / 256) ++ [UInt8.ofNat n]

/-- The base-256 digits of a number without leading zeros; zero has none. -/
def least (n : Nat) : Bytes :=
  if n = 0 then [] else least (n / 256) ++ [UInt8.ofNat n]
termination_by n
decreasing_by omega

@[simp] theorem ofNat_length (width n : Nat) : (ofNat width n).length = width := by
  induction width generalizing n with
  | zero => rfl
  | succ width ih => simp [ofNat, ih]

@[simp] theorem toNat_nil : toNat [] = 0 := rfl

@[simp] theorem toNat_append_singleton (bs : Bytes) (b : UInt8) :
    toNat (bs ++ [b]) = toNat bs * 256 + b.toNat := by
  simp [toNat, List.foldl_append]

/-- Writing with a fixed width keeps the number modulo the range of that width. -/
theorem toNat_ofNat (width n : Nat) : toNat (ofNat width n) = n % Nat.pow 256 width := by
  induction width generalizing n with
  | zero => simp [ofNat, Nat.mod_one]
  | succ width ih =>
    rw [ofNat, toNat_append_singleton, ih, Nat.pow_eq, Nat.pow_eq, Nat.pow_succ', Nat.mod_mul]
    simp [UInt8.toNat_ofNat']
    omega

/-- The least numeral denotes the number that it was made from. -/
theorem toNat_least (n : Nat) : toNat (least n) = n := by
  induction n using Nat.strongRecOn with
  | ind n ih =>
    rw [least]
    split
    · simp_all
    · rw [toNat_append_singleton, ih (n / 256) (by omega)]
      simp [UInt8.toNat_ofNat']
      omega

end Bytes

end TxGateway
