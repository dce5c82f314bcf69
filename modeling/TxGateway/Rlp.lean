import TxGateway.Bytes

/-!
# Nested byte strings in one byte string

An item is a byte string or a list of items. A single byte below 128 stands for itself; anything
else begins with its length, which is itself written in front of long items. A number is written
without leading zeros, so zero is the empty string.
-/

namespace TxGateway.Rlp

/-- A nested byte string. -/
inductive Item
  /-- A byte string. -/
  | bytes (bs : Bytes)
  /-- A list of items. -/
  | list (items : List Item)

namespace Item

/-- A number as an item. -/
def ofNat (n : Nat) : Item := bytes (Bytes.least n)

/-- A length in front of what it belongs to; `base` tells strings and lists apart. -/
def header (base : Nat) (length : Nat) : Bytes :=
  if length < 56 then [UInt8.ofNat (base + length)]
  else
    let digits := Bytes.least length
    UInt8.ofNat (base + 55 + digits.length) :: digits

/-- A byte string in its written form. -/
def encodeBytes : Bytes → Bytes
  | [b] => if b < 128 then [b] else [0x81, b]
  | bs => header 0x80 bs.length ++ bs

mutual

/-- The written form of an item. -/
def encode : Item → Bytes
  | bytes bs => encodeBytes bs
  | list items =>
    let body := encodeAll items
    header 0xc0 body.length ++ body

/-- The written forms of items, one behind the other. -/
def encodeAll : List Item → Bytes
  | [] => []
  | item :: rest => encode item ++ encodeAll rest

end

/-- The kind of an item, the bytes of its body and the bytes behind it. -/
def split? : Bytes → Option (Bool × Bytes × Bytes)
  | [] => none
  | b :: rest =>
    let take (isList : Bool) (length : Nat) (rest : Bytes) : Option (Bool × Bytes × Bytes) :=
      if length ≤ rest.length then some (isList, rest.take length, rest.drop length) else none
    let long (isList : Bool) (width : Nat) : Option (Bool × Bytes × Bytes) :=
      if width ≤ rest.length then
        let digits := rest.take width
        let length := Bytes.toNat digits
        if length < 56 ∨ digits.head? = some 0 then none
        else take isList length (rest.drop width)
      else none
    if b < 0x80 then some (false, [b], rest)
    else if b < 0xb8 then match take false (b.toNat - 0x80) rest with
      | some (_, [c], _) => if c < 0x80 then none else take false 1 rest
      | other => other
    else if b < 0xc0 then long false (b.toNat - 0xb7)
    else if b < 0xf8 then take true (b.toNat - 0xc0) rest
    else long true (b.toNat - 0xf7)

mutual

/-- The item at the head of a byte string, nested at most `fuel` deep, and the bytes behind it. -/
def decode? : (fuel : Nat) → Bytes → Option (Item × Bytes)
  | 0, _ => none
  | fuel + 1, bs => match split? bs with
    | none => none
    | some (false, body, rest) => some (bytes body, rest)
    | some (true, body, rest) => (decodeAll? fuel body).map fun items => (list items, rest)

/-- The items that a byte string consists of. -/
def decodeAll? : (fuel : Nat) → Bytes → Option (List Item)
  | _, [] => some []
  | 0, _ => none
  | fuel + 1, bs => match decode? fuel bs with
    | none => none
    | some (item, rest) => (decodeAll? fuel rest).map (item :: ·)

end

/-- The item that a byte string is the written form of. -/
def ofBytes? (bs : Bytes) : Option Item :=
  match decode? (2 * bs.length + 2) bs with
  | some (item, []) => some item
  | _ => none

end Item

end TxGateway.Rlp
