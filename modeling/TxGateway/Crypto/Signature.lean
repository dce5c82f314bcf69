import TxGateway.Crypto.Curve
import TxGateway.Crypto.Keccak
import TxGateway.Crypto.Sha256

/-!
# Signatures

A signature of a digest under a private key. The secret point is derived from the key and the
digest alone, so the same digest always gets the same signature; of the two values that `s` may
have, the lower one is used. The parity tells which of two public keys has signed.
-/

namespace TxGateway

/-- A private key: a number from one to one less than the order of the curve. -/
structure PrivateKey where
  /-- The number. -/
  secret : Nat
  /-- The number is not zero. -/
  pos : 0 < secret
  /-- The number is less than the order. -/
  lt : secret < Curve.order

/-- A signature. -/
structure Signature where
  /-- The first coordinate of the secret point, modulo the order. -/
  r : Nat
  /-- The lower one of the two values that prove the knowledge of the key. -/
  s : Nat
  /-- Whether the second coordinate of the secret point is odd, once `s` is the lower value. -/
  odd : Bool
  deriving DecidableEq, Repr

namespace PrivateKey

/-- The private key of 32 bytes, if they denote one. -/
def ofBytes? (bs : Bytes) : Option PrivateKey :=
  if h : bs.length = 32 ∧ 0 < bs.toNat ∧ bs.toNat < Curve.order then
    some ⟨bs.toNat, h.2.1, h.2.2⟩
  else none

/-- The last 20 bytes of the hash of the public key. -/
def accountBytes (k : PrivateKey) : Bytes :=
  match (Curve.Point.mul k.secret .generator).affine? with
  | none => []
  | some (x, y) => (Keccak.hash (Bytes.ofNat 32 x ++ Bytes.ofNat 32 y)).drop 12

/-- The state from which secret numbers are drawn. -/
structure Draw where
  /-- The key of the codes. -/
  key : Bytes
  /-- The last code. -/
  value : Bytes

namespace Draw

/-- Mixes a message into the state. -/
def mix (d : Draw) (message : Bytes) : Draw :=
  let key := Sha256.code d.key (d.value ++ message)
  { key := key, value := Sha256.code key d.value }

/-- The state for a key and a digest. -/
def start (secret digest : Nat) : Draw :=
  let seed := Bytes.ofNat 32 secret ++ Bytes.ofNat 32 (digest % Curve.order)
  let d : Draw := ⟨List.replicate 32 0x00, List.replicate 32 0x01⟩
  (d.mix (0x00 :: seed)).mix (0x01 :: seed)

/-- The next number of 32 bytes. -/
def next (d : Draw) : Nat × Draw :=
  let value := Sha256.code d.key d.value
  (value.toNat, { d with value := value })

end Draw

/-- The signature with a given secret number, if that number is of use. -/
def signWith? (k : PrivateKey) (digest secret : Nat) : Option Signature :=
  if secret = 0 ∨ Curve.order ≤ secret then none
  else match (Curve.Point.mul secret .generator).affine? with
    | none => none
    | some (x, y) =>
      let r := x % Curve.order
      let s := Curve.inverse Curve.order secret * (digest + r * k.secret) % Curve.order
      if r = 0 ∨ s = 0 then none
      else if Curve.order / 2 < s then some ⟨r, Curve.order - s, y % 2 = 0⟩
      else some ⟨r, s, y % 2 = 1⟩

/-- Draws secret numbers until one is of use, at most `fuel` of them. -/
def signFrom? (k : PrivateKey) (digest : Nat) : (fuel : Nat) → Draw → Option Signature
  | 0, _ => none
  | fuel + 1, d =>
    let (secret, d) := d.next
    match k.signWith? digest secret with
    | some signature => some signature
    | none => signFrom? k digest fuel (d.mix [0x00])

/-- The signature of a digest of 32 bytes. A drawn number is of no use once in `2 ^ 128` times, so
this has a value in all but one of `2 ^ 8192` cases. -/
def sign? (k : PrivateKey) (digest : Bytes) : Option Signature :=
  k.signFrom? digest.toNat 64 (.start k.secret digest.toNat)

end PrivateKey

end TxGateway
