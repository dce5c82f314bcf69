import TxGateway.Decimal.Written
import TxGateway.Json

/-!
# Tokens of structured data

A text is cut into tokens up to its end or to the first place where no token begins. A token keeps
what a reader may still object to: a number may be too great, a quoted text may hold half of a
surrogate pair. Whoever passes over a value does not object to these.
-/

namespace TxGateway.Json

/-- A number as it is written. -/
inductive Numeral
  /-- Digits only, possibly with a minus sign. -/
  | whole (negative : Bool) (n : Nat)
  /-- With a fraction or an exponent, in range. -/
  | decimal
  /-- Beyond the range of binary floating-point numbers of double precision. -/
  | tooGreat
  deriving DecidableEq, Repr

/-- A token. -/
inductive Token
  | openObject
  | closeObject
  | openArray
  | closeArray
  | colon
  | comma
  | null
  | bool (b : Bool)
  | number (n : Numeral)
  /-- A quoted text; none if an escape in it denotes no character. -/
  | string (s : Option String)
  deriving DecidableEq, Repr

/-- A text in tokens. -/
structure Tokens where
  /-- The tokens in front of the first fault. -/
  tokens : List Token
  /-- Whether the whole text could be cut. -/
  complete : Bool
  deriving DecidableEq, Repr

namespace Token

/-- Characters between tokens. -/
def isSpace (c : Char) : Bool := c == ' ' || c == '\t' || c == '\n' || c == '\r'

/-- Removes a word from the head of a text. -/
def dropWord? : List Char → List Char → Option (List Char)
  | [], cs => some cs
  | _ :: _, [] => none
  | w :: ws, c :: cs => if w = c then dropWord? ws cs else none

/-- The value of a hexadecimal digit. -/
def hexValue? (c : Char) : Option Nat :=
  if '0' ≤ c ∧ c ≤ '9' then some (c.toNat - 48)
  else if 'a' ≤ c ∧ c ≤ 'f' then some (c.toNat - 87)
  else if 'A' ≤ c ∧ c ≤ 'F' then some (c.toNat - 55)
  else none

/-- A unit of sixteen bits in four digits, and the rest of the text. -/
def unit? : List Char → Option (Nat × List Char)
  | a :: b :: c :: d :: rest => do
    let a ← hexValue? a
    let b ← hexValue? b
    let c ← hexValue? c
    let d ← hexValue? d
    pure (a * 4096 + b * 256 + c * 16 + d, rest)
  | _ => none

/-- A piece of a quoted text: a character, or a unit of sixteen bits. -/
inductive Piece
  | char (c : Char)
  | unit (n : Nat)
  deriving DecidableEq, Repr

/-- The character that a letter after a backslash denotes. -/
def escaped? : Char → Option Char
  | '"' => some '"'
  | '\\' => some '\\'
  | '/' => some '/'
  | 'b' => some '\x08'
  | 'f' => some '\x0c'
  | 'n' => some '\n'
  | 'r' => some '\r'
  | 't' => some '\t'
  | _ => none

/-- The pieces of a quoted text up to its closing quote, and the rest behind it. -/
def pieces? (fuel : Nat) (cs : List Char) : Option (List Piece × List Char) :=
  match fuel, cs with
  | 0, _ => none
  | _ + 1, [] => none
  | _ + 1, '"' :: rest => some ([], rest)
  | fuel + 1, '\\' :: 'u' :: rest => do
    let (n, rest) ← unit? rest
    let (ps, rest) ← pieces? fuel rest
    pure (.unit n :: ps, rest)
  | fuel + 1, '\\' :: c :: rest => do
    let c ← escaped? c
    let (ps, rest) ← pieces? fuel rest
    pure (.char c :: ps, rest)
  | fuel + 1, c :: rest =>
    if c.toNat < 32 then none
    else do
      let (ps, rest) ← pieces? fuel rest
      pure (.char c :: ps, rest)

/-- The characters that pieces denote; none if a unit belongs to a pair that is not whole. -/
def join? : List Piece → Option (List Char)
  | [] => some []
  | .char c :: rest => (join? rest).map (c :: ·)
  | .unit high :: .unit low :: rest =>
    if 0xD800 ≤ high ∧ high < 0xDC00 then
      if 0xDC00 ≤ low ∧ low < 0xE000 then
        (join? rest).map (Char.ofNat (0x10000 + (high - 0xD800) * 1024 + (low - 0xDC00)) :: ·)
      else none
    else if 0xDC00 ≤ high ∧ high < 0xE000 then none
    else (join? (.unit low :: rest)).map (Char.ofNat high :: ·)
  | .unit n :: rest =>
    if 0xD800 ≤ n ∧ n < 0xE000 then none else (join? rest).map (Char.ofNat n :: ·)

/-- The exponent behind a number, and the rest of the text. -/
def exponent? : List Char → Option (Option Int × List Char)
  | c :: rest =>
    if c = 'e' ∨ c = 'E' then
      let (negative, rest) := match rest with
        | '-' :: rest => (true, rest)
        | '+' :: rest => (false, rest)
        | rest => (false, rest)
      match rest.span Char.isDigit with
      | ([], _) => none
      | (ds, rest) =>
        let n : Int := Decimal.digitsValue ds
        some (some (if negative then -n else n), rest)
    else some (none, c :: rest)
  | [] => some (none, [])

/-- The fraction behind a number, and the rest of the text. -/
def fraction? : List Char → Option (Option (List Char) × List Char)
  | '.' :: rest => match rest.span Char.isDigit with
    | ([], _) => none
    | (ds, rest) => some (some ds, rest)
  | cs => some (none, cs)

/-- A number without its sign, and the rest of the text. A zero is not followed by a digit. -/
def numeral? (negative : Bool) (cs : List Char) : Option (Numeral × List Char) := do
  let (digits, rest) := cs.span Char.isDigit
  if digits = [] ∨ (digits.head? = some '0' ∧ 1 < digits.length) then none
  else
    let (fraction, rest) ← fraction? rest
    let (exponent, rest) ← exponent? rest
    let written : Decimal.Written := ⟨digits, fraction.getD [], exponent.getD 0⟩
    let kind : Numeral :=
      if written.overflows then .tooGreat
      else if fraction.isNone && exponent.isNone then .whole negative (Decimal.digitsValue digits)
      else .decimal
    pure (kind, rest)

/-- The token at the head of a text, and the rest behind it. -/
def next? (cs : List Char) : Option (Token × List Char) :=
  match cs with
  | [] => none
  | '\x7b' :: rest => some (.openObject, rest)
  | '\x7d' :: rest => some (.closeObject, rest)
  | '[' :: rest => some (.openArray, rest)
  | ']' :: rest => some (.closeArray, rest)
  | ':' :: rest => some (.colon, rest)
  | ',' :: rest => some (.comma, rest)
  | '"' :: rest => (pieces? (rest.length + 1) rest).map fun (ps, rest) =>
    (.string ((join? ps).map String.ofList), rest)
  | '-' :: rest => (numeral? true rest).map fun (n, rest) => (.number n, rest)
  | c :: rest =>
    if c.isDigit then (numeral? false cs).map fun (n, rest) => (.number n, rest)
    else if c = 'n' then (dropWord? "ull".toList rest).map fun rest => (.null, rest)
    else if c = 't' then (dropWord? "rue".toList rest).map fun rest => (.bool true, rest)
    else if c = 'f' then (dropWord? "alse".toList rest).map fun rest => (.bool false, rest)
    else none

/-- The tokens of a text of at most `fuel` characters. -/
def cut (fuel : Nat) (cs : List Char) : Tokens :=
  match fuel, cs.dropWhile isSpace with
  | _, [] => ⟨[], true⟩
  | 0, _ => ⟨[], false⟩
  | fuel + 1, cs => match next? cs with
    | none => ⟨[], false⟩
    | some (t, rest) =>
      let ts := cut fuel rest
      { ts with tokens := t :: ts.tokens }

end Token

/-- The tokens of a text. -/
def Tokens.ofText (s : String) : Tokens := Token.cut s.length s.toList

mutual

/-- The tokens of a value. -/
def tokens : Json → List Token
  | null => [.null]
  | bool b => [.bool b]
  | number n => [.number (.whole (n < 0) n.natAbs)]
  | string s => [.string (some s)]
  | array items => .openArray :: itemTokens items ++ [.closeArray]
  | object members => .openObject :: memberTokens members ++ [.closeObject]

/-- The tokens of the items of a sequence, with commas between them. -/
def itemTokens : List Json → List Token
  | [] => []
  | [v] => tokens v
  | v :: rest => tokens v ++ .comma :: itemTokens rest

/-- The tokens of named values, with commas between them. -/
def memberTokens : List (String × Json) → List Token
  | [] => []
  | [(name, v)] => .string (some name) :: .colon :: tokens v
  | (name, v) :: rest => .string (some name) :: .colon :: tokens v ++ .comma :: memberTokens rest

end

end TxGateway.Json
