import TxGateway.Decimal.Written
import TxGateway.Hex
import TxGateway.Timestamp
import TxGateway.Toml

/-!
# Reading configuration documents

A document is read from the left; a reader gives what it has read and the rest of the text, or
nothing if the text goes wrong. Lines end with a line feed, possibly behind a carriage return.
Values may be nested less than eighty deep, and a dotted name has fewer than eighty parts.
-/

namespace TxGateway.Toml

/-- Reads something at the head of a text. -/
abbrev Reading (α : Type) := List Char → Option (α × List Char)

/-- Blanks inside of a line. -/
def isBlank (c : Char) : Bool := c == ' ' || c == '\t'

/-- Characters beyond the basic ones. -/
def isWide (c : Char) : Bool := 0x80 ≤ c.toNat

/-- Characters of a comment. -/
def isCommentChar (c : Char) : Bool := c == '\t' || (0x20 ≤ c.toNat && c.toNat ≤ 0x7e) || isWide c

/-- Characters of a text in double quotes that stand for themselves. -/
def isBasicChar (c : Char) : Bool := isCommentChar c && c != '"' && c != '\\'

/-- Characters of a text in single quotes. -/
def isLiteralChar (c : Char) : Bool := isCommentChar c && c != '\''

/-- Characters of a name without quotes. -/
def isNameChar (c : Char) : Bool := c.isAlphanum || c == '-' || c == '_'

/-- The text behind blanks. -/
def dropBlanks (cs : List Char) : List Char := cs.dropWhile isBlank

/-- The text behind the end of a line. -/
def dropLineEnd? : List Char → Option (List Char)
  | '\n' :: rest => some rest
  | '\r' :: '\n' :: rest => some rest
  | _ => none

/-- The text behind a comment, if there is one. -/
def dropComment : List Char → List Char
  | '#' :: rest => rest.dropWhile isCommentChar
  | cs => cs

/-- The text behind the blanks, the comment and the end of a line that holds nothing else. -/
def dropRestOfLine? (cs : List Char) : Option (List Char) :=
  match dropComment (dropBlanks cs) with
  | [] => some []
  | cs => dropLineEnd? cs

/-- The text behind blanks, comments and ends of lines; the flag tells whether a comment is
open. -/
def dropFiller : Bool → List Char → List Char
  | _, '\n' :: rest => dropFiller false rest
  | _, '\r' :: '\n' :: rest => dropFiller false rest
  | true, c :: rest => if isCommentChar c then dropFiller true rest else c :: rest
  | false, c :: rest =>
    if isBlank c then dropFiller false rest
    else if c = '#' then dropFiller true rest
    else c :: rest
  | _, [] => []

/-- The text behind blanks and ends of lines. -/
def dropLineEnds : List Char → List Char
  | '\r' :: '\n' :: rest => dropLineEnds rest
  | c :: rest => if isBlank c || c == '\n' then dropLineEnds rest else c :: rest
  | [] => []

/-! ## Texts -/

/-- The character with a number, if there is one. -/
def charOf? (n : Nat) : Option Char :=
  if n < 0xD800 ∨ (0xE000 ≤ n ∧ n < 0x110000) then some (Char.ofNat n) else none

/-- The character denoted by a number of hexadecimal digits. -/
def coded? (width : Nat) (cs : List Char) : Option (Char × List Char) := do
  let digits := cs.take width
  if digits.length = width then
    let values ← digits.mapM Hex.digit?
    let c ← charOf? (Hex.value values)
    pure (c, cs.drop width)
  else none

/-- The character denoted by what stands behind a backslash. -/
def escaped? : List Char → Option (Char × List Char)
  | 'b' :: rest => some ('\x08', rest)
  | 't' :: rest => some ('\t', rest)
  | 'n' :: rest => some ('\n', rest)
  | 'f' :: rest => some ('\x0c', rest)
  | 'r' :: rest => some ('\r', rest)
  | '"' :: rest => some ('"', rest)
  | '\\' :: rest => some ('\\', rest)
  | 'u' :: rest => coded? 4 rest
  | 'U' :: rest => coded? 8 rest
  | _ => none

/-- The rest of a text in double quotes of at most `fuel` characters. -/
def basic? : (fuel : Nat) → Reading (List Char)
  | 0, _ => none
  | _ + 1, '"' :: rest => some ([], rest)
  | fuel + 1, '\\' :: rest => do
    let (c, rest) ← escaped? rest
    let (cs, rest) ← basic? fuel rest
    pure (c :: cs, rest)
  | fuel + 1, c :: rest =>
    if isBasicChar c then do
      let (cs, rest) ← basic? fuel rest
      pure (c :: cs, rest)
    else none
  | _ + 1, [] => none

/-- The rest of a text in single quotes. -/
def literal? (cs : List Char) : Option (List Char × List Char) :=
  match cs.span isLiteralChar with
  | (s, '\'' :: rest) => some (s, rest)
  | _ => none

/-- How many times a character stands at the head of a text, and the text behind. -/
def countHead (q : Char) (cs : List Char) : Nat × List Char :=
  let (head, rest) := cs.span (· == q)
  (head.length, rest)

/-- The rest of a text in three quotes of a kind, of at most `fuel` characters. Up to two quotes
may stand right in front of the closing ones. Behind a backslash at the end of a line, blanks and
ends of lines are passed over. -/
def long? (q : Char) : (fuel : Nat) → Reading (List Char)
  | 0, _ => none
  | fuel + 1, cs =>
    match countHead q cs with
    | (0, _) => match cs with
      | [] => none
      | '\n' :: rest | '\r' :: '\n' :: rest => do
        let (s, rest) ← long? q fuel rest
        pure ('\n' :: s, rest)
      | c :: rest =>
        if c = '\\' ∧ q = '"' then
          match dropLineEnd? (dropBlanks rest) with
          | some rest => long? q fuel (dropLineEnds rest)
          | none => do
            let (c, rest) ← escaped? rest
            let (s, rest) ← long? q fuel rest
            pure (c :: s, rest)
        else if isCommentChar c then do
          let (s, rest) ← long? q fuel rest
          pure (c :: s, rest)
        else none
    | (n, rest) =>
      if n < 3 then do
        let (s, rest) ← long? q fuel rest
        pure (List.replicate n q ++ s, rest)
      else
        let inner := min (n - 3) 2
        some (List.replicate inner q, cs.drop (inner + 3))

/-- The text behind the first end of a line, if the text begins with one. -/
def dropFirstLineEnd (cs : List Char) : List Char := (dropLineEnd? cs).getD cs

/-- A text in quotes of any kind. -/
def quoted? (cs : List Char) : Option (String × List Char) :=
  let read := match cs with
    | '"' :: '"' :: '"' :: rest => long? '"' (rest.length + 1) (dropFirstLineEnd rest)
    | '\'' :: '\'' :: '\'' :: rest => long? '\'' (rest.length + 1) (dropFirstLineEnd rest)
    | '"' :: rest => basic? (rest.length + 1) rest
    | '\'' :: rest => literal? rest
    | _ => none
  read.map fun (s, rest) => (String.ofList s, rest)

/-! ## Names -/

/-- One part of a name. -/
def part? (cs : List Char) : Option (String × List Char) :=
  match cs with
  | '"' :: rest => (basic? (rest.length + 1) rest).map fun (s, rest) => (String.ofList s, rest)
  | '\'' :: rest => (literal? rest).map fun (s, rest) => (String.ofList s, rest)
  | cs => match cs.span isNameChar with
    | ([], _) => none
    | (s, rest) => some (String.ofList s, rest)

/-- The greatest depth of values, and the greatest number of parts of a name. -/
def depthLimit : Nat := 79

/-- A name of at most `fuel` parts, with blanks around each: the parts that lead to the last one,
and the last one. -/
def name? : (fuel : Nat) → Reading (List String × String)
  | 0, _ => none
  | fuel + 1, cs => do
    let (part, rest) ← part? (dropBlanks cs)
    match dropBlanks rest with
    | '.' :: rest => do
      let ((path, last), rest) ← name? fuel rest
      pure ((part :: path, last), rest)
    | rest => pure (([], part), rest)

/-! ## Numbers, dates and times -/

/-- Digits of a kind, with single underscores between them. -/
def digits? (isDigit : Char → Bool) : Reading (List Char)
  | [] => none
  | c :: rest =>
    if isDigit c then
      match rest with
      | '_' :: d :: more =>
        if isDigit d then
          (digits? isDigit (d :: more)).map fun (ds, rest) => (c :: ds, rest)
        else none
      | '_' :: [] => none
      | d :: more =>
        if isDigit d then
          (digits? isDigit (d :: more)).map fun (ds, rest) => (c :: ds, rest)
        else some ([c], d :: more)
      | [] => some ([c], [])
    else none
termination_by cs => cs.length

/-- The sign of a number and the text behind it. -/
def sign : List Char → Bool × List Char
  | '-' :: rest => (true, rest)
  | '+' :: rest => (false, rest)
  | cs => (false, cs)

/-- Decimal digits without leading zeros. -/
def decimalDigits? : Reading (List Char)
  | '0' :: rest => some (['0'], rest)
  | cs => digits? Char.isDigit cs

/-- A whole number that is in the range of 64 bits with a sign. -/
def inRange? (n : Int) : Option Toml :=
  if -Nat.pow 2 63 ≤ n ∧ n < Nat.pow 2 63 then some (integer n) else none

/-- Digits of a base below eleven or of base sixteen. -/
def based? (base : Nat) (cs : List Char) : Option (Toml × List Char) := do
  let isDigit := fun c => match Hex.digit? c with
    | some d => decide (d < base)
    | none => false
  let (ds, rest) ← digits? isDigit cs
  let values ← ds.mapM Hex.digit?
  let n : Nat := values.foldl (fun n d => n * base + d) 0
  let v ← inRange? n
  pure (v, rest)

/-- A whole number. -/
def integer? (cs : List Char) : Option (Toml × List Char) :=
  match cs with
  | '0' :: 'x' :: rest => based? 16 rest
  | '0' :: 'o' :: rest => based? 8 rest
  | '0' :: 'b' :: rest => based? 2 rest
  | cs => do
    let (negative, rest) := sign cs
    let (ds, rest) ← decimalDigits? rest
    let n : Int := Decimal.digitsValue ds
    let n ← inRange? (if negative then -n else n)
    pure (n, rest)

/-- The exponent of a number. -/
def exponent? : Reading Int
  | c :: rest =>
    if c = 'e' ∨ c = 'E' then do
      let (negative, rest) := sign rest
      let (ds, rest) ← digits? Char.isDigit rest
      let n : Int := Decimal.digitsValue ds
      pure (if negative then -n else n, rest)
    else none
  | [] => none

/-- A number with a fraction or an exponent. A positive one has to be in range; a negative one
beyond the range is an infinity. -/
def decimal? (cs : List Char) : Option (Toml × List Char) := do
  let (negative, rest) := sign cs
  let (ds, rest) ← decimalDigits? rest
  let (fraction, exponent, rest) ← match rest with
    | '.' :: rest => do
      let (fraction, rest) ← digits? Char.isDigit rest
      match rest with
      | c :: _ =>
        if c = 'e' ∨ c = 'E' then do
          let (exponent, rest) ← exponent? rest
          pure (fraction, exponent, rest)
        else pure (fraction, 0, rest)
      | [] => pure (fraction, 0, rest)
    | rest => do
      let (exponent, rest) ← exponent? rest
      pure ([], exponent, rest)
  if !negative && Decimal.Written.isBeyond ⟨ds, fraction, exponent⟩ then none
  else pure (decimal, rest)

/-- An infinity, or no number. -/
def special? (cs : List Char) : Option (Toml × List Char) :=
  match (sign cs).2 with
  | 'i' :: 'n' :: 'f' :: rest | 'n' :: 'a' :: 'n' :: rest => some (decimal, rest)
  | _ => none

/-- A number of exactly so many digits. -/
def fixed? (width : Nat) (cs : List Char) : Option (Nat × List Char) :=
  let ds := cs.take width
  if ds.length = width ∧ ds.all Char.isDigit then some (Decimal.digitsValue ds, cs.drop width)
  else none

/-- The text behind a date. -/
def dropDate? (cs : List Char) : Option (List Char) := do
  let (year, rest) ← fixed? 4 cs
  let '-' :: rest := rest | none
  let (month, rest) ← fixed? 2 rest
  let '-' :: rest := rest | none
  let (day, rest) ← fixed? 2 rest
  if 1 ≤ month ∧ month ≤ 12 ∧ 1 ≤ day ∧ day ≤ Date.daysIn year month then some rest else none

/-- The text behind a time of day. -/
def dropTime? (cs : List Char) : Option (List Char) := do
  let (hour, rest) ← fixed? 2 cs
  let ':' :: rest := rest | none
  let (minute, rest) ← fixed? 2 rest
  let ':' :: rest := rest | none
  let (second, rest) ← fixed? 2 rest
  if 23 < hour ∨ 59 < minute ∨ 60 < second then none
  else match rest with
    | '.' :: rest => match rest.span Char.isDigit with
      | ([], _) => none
      | (_, rest) => some rest
    | rest => some rest

/-- The text behind the distance from universal time, if there is one. -/
def dropOffset? : List Char → Option (List Char)
  | 'Z' :: rest | 'z' :: rest => some rest
  | c :: rest =>
    if c = '+' ∨ c = '-' then do
      let (hour, rest) ← fixed? 2 rest
      let ':' :: rest := rest | none
      let (minute, rest) ← fixed? 2 rest
      if 23 < hour ∨ 59 < minute then none else some rest
    else some (c :: rest)
  | [] => some []

/-- A date, a time or both. -/
def moment? (cs : List Char) : Option (Toml × List Char) :=
  match dropDate? cs with
  | some rest =>
    let afterTime := match rest with
      | c :: more =>
        if c = 'T' ∨ c = 't' ∨ c = ' ' then (dropTime? more).bind dropOffset? else none
      | [] => none
    some (moment, afterTime.getD rest)
  | none => (dropTime? cs).map fun rest => (moment, rest)

/-- A number, a date or a time. -/
def number? (cs : List Char) : Option (Toml × List Char) :=
  (moment? cs).orElse fun _ => (special? cs).orElse fun _ =>
    (decimal? cs).orElse fun _ => integer? cs

/-! ## Values -/

/-- A value that holds no other. -/
def scalar? (cs : List Char) : Option (Toml × List Char) :=
  match cs with
  | [] => none
  | c :: _ =>
    if c = '"' ∨ c = '\'' then (quoted? cs).map fun (s, rest) => (string s, rest)
    else if c = '+' ∨ c = '-' ∨ c.isDigit ∨ c = 'i' ∨ c = 'n' then number? cs
    else match cs with
      | 't' :: 'r' :: 'u' :: 'e' :: rest => some (bool true, rest)
      | 'f' :: 'a' :: 'l' :: 's' :: 'e' :: rest => some (bool false, rest)
      | _ => none

mutual

/-- A value, nested at most `depth` deep. -/
def value? (depth : Nat) : (fuel : Nat) → Reading Toml
  | 0, _ => none
  | fuel + 1, '[' :: rest =>
    if depth = 0 then none
    else (items? (depth - 1) fuel (dropFiller false rest)).map fun (vs, rest) => (array vs, rest)
  | fuel + 1, '\x7b' :: rest =>
    if depth = 0 then none
    else match dropBlanks rest with
      | '\x7d' :: rest => some (table .written [], rest)
      | rest => do
        let (pairs, rest) ← pairs? (depth - 1) fuel rest
        let v ← ofPairs? pairs
        pure (v, rest)
  | _ + 1, cs => scalar? cs

/-- The items of an array up to its end. -/
def items? (depth : Nat) : (fuel : Nat) → Reading (List Toml)
  | 0, _ => none
  | _ + 1, ']' :: rest => some ([], rest)
  | fuel + 1, cs => do
    let (v, rest) ← value? depth fuel cs
    match dropFiller false rest with
    | ']' :: rest => pure ([v], rest)
    | ',' :: rest => do
      let (vs, rest) ← items? depth fuel (dropFiller false rest)
      pure (v :: vs, rest)
    | _ => none

/-- The named values of a table up to its end. -/
def pairs? (depth : Nat) : (fuel : Nat) → Reading (List (List String × String × Toml))
  | 0, _ => none
  | fuel + 1, cs => do
    let ((path, name), rest) ← name? depthLimit cs
    let '=' :: rest := rest | none
    let (v, rest) ← value? depth fuel (dropBlanks rest)
    match dropBlanks rest with
    | '\x7d' :: rest => pure ([(path, name, v)], rest)
    | ',' :: rest => do
      let (more, rest) ← pairs? depth fuel (dropBlanks rest)
      pure ((path, name, v) :: more, rest)
    | _ => none

end

/-! ## Documents -/

/-- A statement and the rest of its line. -/
def statement? (cs : List Char) : Option (Statement × List Char) :=
  match cs with
  | '[' :: '[' :: rest => do
    let ((path, name), rest) ← name? depthLimit rest
    let ']' :: ']' :: rest := rest | none
    let rest ← dropRestOfLine? rest
    pure (.arrayHeader path name, rest)
  | '[' :: rest => do
    let ((path, name), rest) ← name? depthLimit rest
    let ']' :: rest := rest | none
    let rest ← dropRestOfLine? rest
    pure (.header path name, rest)
  | cs => do
    let ((path, name), rest) ← name? depthLimit cs
    let '=' :: rest := rest | none
    let (v, rest) ← value? depthLimit (2 * rest.length + 1) (dropBlanks rest)
    let rest ← dropRestOfLine? rest
    pure (.pair path name v, rest)

/-- The statements of a document of at most `fuel` lines. -/
def statements? : (fuel : Nat) → List Char → Option (List Statement)
  | 0, _ => none
  | fuel + 1, cs => match dropBlanks cs with
    | [] => some []
    | '#' :: rest => do
      let rest ← dropRestOfLine? ('#' :: rest)
      statements? fuel rest
    | '\n' :: rest | '\r' :: '\n' :: rest => statements? fuel rest
    | cs => do
      let (s, rest) ← statement? cs
      (statements? fuel rest).map (s :: ·)

/-- The table that a document denotes. A mark of the byte order may stand in front. -/
def ofText? (s : String) : Option Members :=
  let cs := match s.toList with
    | '\uFEFF' :: rest => rest
    | cs => cs
  (statements? (cs.length + 1) cs).bind ofStatements?

end TxGateway.Toml
