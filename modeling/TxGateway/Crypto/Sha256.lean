import TxGateway.Bytes

/-!
# The SHA-256 hash and keyed codes made from it
-/

namespace TxGateway.Sha256

/-- The eight words that are carried from block to block. -/
abbrev Chain := Vector UInt32 8

/-- A word turned to the right. -/
def turn (w : UInt32) (n : UInt32) : UInt32 := (w >>> n) ||| (w <<< (32 - n))

/-- The words before the first block. -/
def initial : Chain :=
  #v[0x6a09e667, 0xbb67ae85, 0x3c6ef372, 0xa54ff53a, 0x510e527f, 0x9b05688c, 0x1f83d9ab,
    0x5be0cd19]

/-- The constants of the rounds. -/
def roundConstants : List UInt32 :=
  [0x428a2f98, 0x71374491, 0xb5c0fbcf, 0xe9b5dba5, 0x3956c25b, 0x59f111f1, 0x923f82a4, 0xab1c5ed5,
    0xd807aa98, 0x12835b01, 0x243185be, 0x550c7dc3, 0x72be5d74, 0x80deb1fe, 0x9bdc06a7, 0xc19bf174,
    0xe49b69c1, 0xefbe4786, 0x0fc19dc6, 0x240ca1cc, 0x2de92c6f, 0x4a7484aa, 0x5cb0a9dc, 0x76f988da,
    0x983e5152, 0xa831c66d, 0xb00327c8, 0xbf597fc7, 0xc6e00bf3, 0xd5a79147, 0x06ca6351, 0x14292967,
    0x27b70a85, 0x2e1b2138, 0x4d2c6dfc, 0x53380d13, 0x650a7354, 0x766a0abb, 0x81c2c92e, 0x92722c85,
    0xa2bfe8a1, 0xa81a664b, 0xc24b8b70, 0xc76c51a3, 0xd192e819, 0xd6990624, 0xf40e3585, 0x106aa070,
    0x19a4c116, 0x1e376c08, 0x2748774c, 0x34b0bcb5, 0x391c0cb3, 0x4ed8aa4a, 0x5b9cca4f, 0x682e6ff3,
    0x748f82ee, 0x78a5636f, 0x84c87814, 0x8cc70208, 0x90befffa, 0xa4506ceb, 0xbef9a3f7, 0xc67178f2]

/-- Mixes an early word into a later one. -/
def spreadLow (w : UInt32) : UInt32 := turn w 7 ^^^ turn w 18 ^^^ (w >>> 3)

/-- Mixes a recent word into a later one. -/
def spreadHigh (w : UInt32) : UInt32 := turn w 17 ^^^ turn w 19 ^^^ (w >>> 10)

/-- The last sixteen words of the schedule. -/
abbrev Window := Vector UInt32 16

/-- The word that follows a window. -/
def nextWord (w : Window) : UInt32 := w[0] + spreadLow w[1] + w[9] + spreadHigh w[14]

/-- Moves a window on by one word. -/
def slide (w : Window) : Window :=
  let next := nextWord w
  Vector.ofFn fun i : Fin 16 =>
    if h : i.val + 1 < 16 then w.get ⟨i.val + 1, h⟩ else next

/-- One round with a constant and a word of the schedule. -/
def round (s : Chain) (constant word : UInt32) : Chain :=
  let choice := (s[4] &&& s[5]) ^^^ (~~~ s[4] &&& s[6])
  let majority := (s[0] &&& s[1]) ^^^ (s[0] &&& s[2]) ^^^ (s[1] &&& s[2])
  let low := s[7] + (turn s[4] 6 ^^^ turn s[4] 11 ^^^ turn s[4] 25) + choice + constant + word
  let high := (turn s[0] 2 ^^^ turn s[0] 13 ^^^ turn s[0] 22) + majority
  #v[low + high, s[0], s[1], s[2], s[3] + low, s[4], s[5], s[6]]

/-- All rounds over a schedule that begins with a window. -/
def rounds (w : Window) (s : Chain) : Chain :=
  (roundConstants.foldl (fun (w, s) constant => (slide w, round s constant w[0])) (w, s)).2

/-- A word of four bytes, most significant first. -/
def wordOfBytes (bs : Bytes) : UInt32 := UInt32.ofNat bs.toNat

/-- The words of a block. -/
def window (block : Bytes) : Window :=
  Vector.ofFn fun i : Fin 16 => wordOfBytes ((block.drop (4 * i.val)).take 4)

/-- Takes in a block. -/
def absorb (s : Chain) (block : Bytes) : Chain :=
  let t := rounds (window block) s
  Vector.ofFn fun i : Fin 8 => s[i] + t[i]

/-- Takes in a padded message, block after block. -/
def absorbAll (s : Chain) : (blocks : Nat) → Bytes → Chain
  | 0, _ => s
  | blocks + 1, bs => absorbAll (absorb s (bs.take 64)) blocks (bs.drop 64)

/-- The message with a one bit, zeros and its length in bits, up to a multiple of 64 bytes. -/
def pad (message : Bytes) : Bytes :=
  let zeros := (119 - message.length % 64) % 64
  message ++ 0x80 :: List.replicate zeros 0x00 ++ Bytes.ofNat 8 (8 * message.length)

/-- The 32 bytes of the hash of a message. -/
def hash (message : Bytes) : Bytes :=
  let padded := pad message
  (absorbAll initial (padded.length / 64) padded).toList.flatMap fun w => Bytes.ofNat 4 w.toNat

/-- A key of one block: a longer one is hashed, a shorter one filled up with zeros. -/
def blockKey (key : Bytes) : Bytes :=
  let key := if 64 < key.length then hash key else key
  key ++ List.replicate (64 - key.length) 0x00

/-- The keyed code of a message. -/
def code (key message : Bytes) : Bytes :=
  let key := blockKey key
  hash (key.map (· ^^^ 0x5c) ++ hash (key.map (· ^^^ 0x36) ++ message))

end TxGateway.Sha256
