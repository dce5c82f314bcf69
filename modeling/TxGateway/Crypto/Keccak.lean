import TxGateway.Bytes

/-!
# The Keccak-256 hash

The sponge of 25 lanes of 64 bits with a rate of 136 bytes and the first padding of the family,
in which a one byte follows the message.
-/

namespace TxGateway.Keccak

/-- The state of the sponge: the lane in column `x` and row `y` has the index `x + 5 * y`. -/
abbrev Lanes := Vector UInt64 25

/-- The bytes taken in at a time. -/
def rate : Nat := 136

/-- The lane in a column and a row, both taken modulo five. -/
def lane (s : Lanes) (x y : Nat) : UInt64 :=
  s.get ⟨(x % 5) + 5 * (y % 5), by omega⟩

/-- The lane with a value for each column and row. -/
def ofLanes (f : Nat → Nat → UInt64) : Lanes :=
  Vector.ofFn fun i => f (i.val % 5) (i.val / 5)

/-- A lane turned to the left. -/
def turn (w : UInt64) (n : Nat) : UInt64 :=
  if n = 0 then w else (w <<< UInt64.ofNat n) ||| (w >>> UInt64.ofNat (64 - n))

/-- By how much each lane is turned. -/
def offsets : Vector Nat 25 :=
  #v[0, 1, 62, 28, 27, 36, 44, 6, 55, 20, 3, 10, 43, 25, 39, 41, 45, 15, 21, 8, 18, 2, 61, 56, 14]

/-- The constants that tell the rounds apart. -/
def roundConstants : List UInt64 :=
  [0x0000000000000001, 0x0000000000008082, 0x800000000000808a, 0x8000000080008000,
    0x000000000000808b, 0x0000000080000001, 0x8000000080008081, 0x8000000000008009,
    0x000000000000008a, 0x0000000000000088, 0x0000000080008009, 0x000000008000000a,
    0x000000008000808b, 0x800000000000008b, 0x8000000000008089, 0x8000000000008003,
    0x8000000000008002, 0x8000000000000080, 0x000000000000800a, 0x800000008000000a,
    0x8000000080008081, 0x8000000000008080, 0x0000000080000001, 0x8000000080008008]

/-- The exclusive or of the lanes of a column. -/
def column (s : Lanes) (x : Nat) : UInt64 :=
  lane s x 0 ^^^ lane s x 1 ^^^ lane s x 2 ^^^ lane s x 3 ^^^ lane s x 4

/-- Adds to each lane its two neighbouring columns. -/
def mixColumns (s : Lanes) : Lanes :=
  let columns := Vector.ofFn fun x : Fin 5 => column s x.val
  let sums := Vector.ofFn fun x : Fin 5 =>
    columns.get ⟨(x.val + 4) % 5, by omega⟩ ^^^ turn (columns.get ⟨(x.val + 1) % 5, by omega⟩) 1
  ofLanes fun x y => lane s x y ^^^ sums.get ⟨x % 5, by omega⟩

/-- Turns the lanes and moves them to new places. -/
def scatter (s : Lanes) : Lanes :=
  let turned := Vector.ofFn fun i : Fin 25 => turn s[i] offsets[i]
  ofLanes fun x y => lane turned (x + 3 * y) x

/-- Combines each lane with the two that follow it in its row. -/
def combineRows (s : Lanes) : Lanes :=
  ofLanes fun x y => lane s x y ^^^ (~~~ lane s (x + 1) y &&& lane s (x + 2) y)

/-- One round. -/
def round (s : Lanes) (constant : UInt64) : Lanes :=
  let s := combineRows (scatter (mixColumns s))
  s.set 0 (s[0] ^^^ constant)

/-- All rounds. -/
def permute (s : Lanes) : Lanes := roundConstants.foldl round s

/-- The message with a one byte, zeros and a last bit up to a multiple of the rate. -/
def pad (message : Bytes) : Bytes :=
  let free := rate - message.length % rate
  if free = 1 then message ++ [0x81]
  else message ++ 0x01 :: List.replicate (free - 2) 0x00 ++ [0x80]

/-- A lane of eight bytes, least significant first. -/
def laneOfBytes (bs : Bytes) : UInt64 :=
  bs.foldr (fun b w => w <<< 8 ||| b.toUInt64) 0

/-- The eight bytes of a lane, least significant first. -/
def bytesOfLane (w : UInt64) : Bytes :=
  (List.range 8).map fun i => (w >>> UInt64.ofNat (8 * i)).toUInt8

/-- Takes one block into the state. -/
def absorb (s : Lanes) (block : Bytes) : Lanes :=
  permute <| Vector.ofFn fun i : Fin 25 => s[i] ^^^ laneOfBytes ((block.drop (8 * i.val)).take 8)

/-- Takes in a padded message, block after block. -/
def absorbAll (s : Lanes) : (blocks : Nat) → Bytes → Lanes
  | 0, _ => s
  | blocks + 1, bs => absorbAll (absorb s (bs.take rate)) blocks (bs.drop rate)

/-- The 32 bytes of the hash of a message. -/
def hash (message : Bytes) : Bytes :=
  let padded := pad message
  let final := absorbAll (Vector.replicate 25 0) (padded.length / rate) padded
  (List.finRange 4).flatMap fun i => bytesOfLane final[i.val]

end TxGateway.Keccak
