import TxGateway.Word

/-!
# Accounts and transaction hashes

An account is named by 20 bytes, a transaction by the 32 bytes of its hash. Both have one written
form, and both are ordered by the number that their bytes denote.
-/

namespace TxGateway

/-- The name of an account. -/
structure Address where
  /-- The 160 bits of the name. -/
  bits : BitVec 160
  deriving DecidableEq, Repr

/-- The hash of a signed transaction. -/
structure TxHash where
  /-- The 256 bits of the hash. -/
  bits : BitVec 256
  deriving DecidableEq, Repr

namespace Address

/-- The account named by the number that 20 bytes denote. -/
def ofBytes (bs : Bytes) : Address := ⟨BitVec.ofNat 160 bs.toNat⟩

/-- The 20 bytes of an account. -/
def toBytes (a : Address) : Bytes := Bytes.ofNat 20 a.bits.toNat

/-- The written form, `0x` and 40 digits. -/
def text (a : Address) : String := Hex.text a.toBytes

/-- Strict reading of a written account. -/
def read (s : String) : Except Hex.Fault Address := (Hex.read 20 s).map ofBytes

/-- Packed reading of a written account. -/
def packed? (s : String) : Option Address := (Hex.packedExactly? 20 s).map ofBytes

/-- Accounts in ascending order. -/
def sorted (as : List Address) : List Address :=
  as.mergeSort fun a b => a.bits.toNat ≤ b.bits.toNat

end Address

namespace TxHash

/-- The hash that 32 bytes denote. -/
def ofBytes (bs : Bytes) : TxHash := ⟨BitVec.ofNat 256 bs.toNat⟩

/-- The 32 bytes of a hash. -/
def toBytes (h : TxHash) : Bytes := Bytes.ofNat 32 h.bits.toNat

/-- The written form, `0x` and 64 digits. -/
def text (h : TxHash) : String := Hex.text h.toBytes

/-- Strict reading of a written hash. -/
def read (s : String) : Except Hex.Fault TxHash := (Hex.read 32 s).map ofBytes

/-- Hashes in ascending order. -/
def sorted (hs : List TxHash) : List TxHash :=
  hs.mergeSort fun a b => a.bits.toNat ≤ b.bits.toNat

end TxHash

end TxGateway
