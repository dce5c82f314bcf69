import TxGateway.Bytes

/-!
# Hexadecimal text

Writing numbers and byte strings in lower-case digits, and the two ways of reading a text of a
known size: the strict one, which names the first fault, and the packed one of structured data,
which looks at the length of the text first. Both skip blanks between digits.
-/

namespace TxGateway

namespace Hex

/-- The value of a hexadecimal digit of either case. -/
def digit? (c : Char) : Option Nat :=
  if '0' ≤ c ∧ c ≤ '9' then some (c.toNat - '0'.toNat)
  else if 'a' ≤ c ∧ c ≤ 'f' then some (c.toNat - 'a'.toNat + 10)
  else if 'A' ≤ c ∧ c ≤ 'F' then some (c.toNat - 'A'.toNat + 10)
  else none

/-- The lower-case digit of a value below sixteen. -/
def digit (n : Nat) : Char :=
  if n < 10 then Char.ofNat ('0'.toNat + n) else Char.ofNat ('a'.toNat + (n - 10))

/-- Blanks that may stand between the digits of a text. -/
def isBlank (c : Char) : Bool :=
  c == ' ' || c == '\t' || c == '\n' || c == '\r'

/-- Two digits for each byte, most significant first. -/
def ofBytes (bs : Bytes) : List Char :=
  bs.flatMap fun b => [digit (b.toNat / 16), digit (b.toNat % 16)]

/-- The written form of a byte string, `0x` and two digits for each byte. -/
def text (bs : Bytes) : String :=
  "0x" ++ String.ofList (ofBytes bs)

/-- The digits of a number without leading zeros; zero has the one digit `0`. -/
def digits (n : Nat) : List Char :=
  if n < 16 then [digit n] else digits (n / 16) ++ [digit (n % 16)]
termination_by n
decreasing_by omega

/-- The written form of a quantity, `0x` and the digits without leading zeros. -/
def quantity (n : Nat) : String :=
  "0x" ++ String.ofList (digits n)

/-- The number denoted by a list of digit values. -/
def value (ds : List Nat) : Nat :=
  ds.foldl (fun n d => n * 16 + d) 0

/-- A text without the two characters `0x` at its head, if they stand there. -/
def dropMark : List Char → List Char
  | '0' :: 'x' :: rest => rest
  | cs => cs

/-- What is wrong with a text that should denote a fixed number of bytes. -/
inductive Fault
  /-- Too few digits, too many, or a digit without a partner. -/
  | length
  /-- A character that is neither a digit nor a blank, with its place in bytes. -/
  | character (c : Char) (position : Nat)
  deriving DecidableEq, Repr

namespace Fault

/-- The wording of a fault. -/
def message : Fault → String
  | length => "Invalid input length"
  | character c position => "Invalid character '" ++ c.toString ++ "' at position "
      ++ toString position

end Fault

/-- What the next two digits of a text give. -/
inductive Pair
  /-- Nothing but blanks is left. -/
  | ended
  /-- A byte, the place behind it and the rest of the text. -/
  | byte (b : UInt8) (position : Nat) (rest : List Char)
  /-- The text goes wrong before the second digit. -/
  | fault (f : Fault)

/-- The next byte of a text from a given place on; `half` is the digit read already. -/
def nextByte (position : Nat) (half : Option Nat) : List Char → Pair
  | [] => match half with
    | none => .ended
    | some _ => .fault .length
  | c :: rest =>
    if isBlank c then nextByte (position + c.utf8Size) half rest
    else match digit? c, half with
      | none, _ => .fault (.character c position)
      | some d, none => nextByte (position + c.utf8Size) (some d) rest
      | some d, some h => .byte (UInt8.ofNat (h * 16 + d)) (position + c.utf8Size) rest

/-- Exactly `width` bytes of a text, byte after byte; the first fault met decides. -/
def readBytes (position : Nat) : (width : Nat) → List Char → Except Fault Bytes
  | 0, cs => match nextByte position none cs with
    | .ended => .ok []
    | _ => .error .length
  | width + 1, cs => match nextByte position none cs with
    | .ended => .error .length
    | .fault f => .error f
    | .byte b position rest => (readBytes position width rest).map (b :: ·)

/-- Strict reading of a text of `width` bytes, with or without `0x`. -/
def read (width : Nat) (s : String) : Except Fault Bytes :=
  readBytes 0 width (dropMark s.toList)

/-- The digit values of a text, blanks left out; `none` if another character occurs. -/
def digitValues? : List Char → Option (List Nat)
  | [] => some []
  | c :: rest =>
    if isBlank c then digitValues? rest
    else match digit? c with
      | none => none
      | some d => (digitValues? rest).map (d :: ·)

/-- Bytes made of two digits each; a last digit without a partner is dropped. -/
def pairs : List Nat → Bytes
  | high :: low :: rest => UInt8.ofNat (high * 16 + low) :: pairs rest
  | _ => []

/-- Packed reading: a text of odd length begins with a byte of one digit. Blanks count for the
length of the text and for nothing else. -/
def packed? (cs : List Char) : Option Bytes :=
  (digitValues? cs).map fun ds =>
    if cs.length % 2 = 0 then pairs ds
    else match ds with
      | [] => []
      | d :: rest => UInt8.ofNat d :: pairs rest

/-- Packed reading of a text of exactly `2 * width` characters after the mark. Bytes that blanks
have left without digits are zero. -/
def packedExactly? (width : Nat) (s : String) : Option Bytes :=
  let cs := dropMark s.toList
  if cs.length = 2 * width then
    (packed? cs).map fun bs => bs ++ List.replicate (width - bs.length) 0
  else none

/-- Packed reading of a text of one to `2 * width` characters after the mark, as a number. -/
def packedNat? (width : Nat) (s : String) : Option Nat :=
  let cs := dropMark s.toList
  if 0 < cs.length ∧ cs.length ≤ 2 * width then (packed? cs).map Bytes.toNat else none

end Hex

end TxGateway
