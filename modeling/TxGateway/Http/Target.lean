import TxGateway.Hex

/-!
# Request targets

The path of a target is cut at its slashes as it is written; a percent sign and two digits denote a
byte, and the bytes of a segment have to be the encoding of a text.
-/

namespace TxGateway.Http

/-- A segment of a path as it is written. -/
abbrev Segment := List Char

namespace Target

/-- Removes the scheme and the host of an absolute target. The host ends where a path, a query or a
fragment begins. -/
def dropHost (cs : List Char) : List Char :=
  match cs.span fun c => c ≠ ':' ∧ c ≠ '/' with
  | (_, ':' :: '/' :: '/' :: rest) => rest.dropWhile fun c => c ≠ '/' ∧ c ≠ '?' ∧ c ≠ '#'
  | _ => cs

/-- The path of a target, without query and fragment. -/
def path (target : String) : List Char :=
  (dropHost target.toList).takeWhile fun c => c ≠ '?' ∧ c ≠ '#'

/-- Cuts a text at its slashes. -/
def cut : List Char → List Segment
  | [] => [[]]
  | '/' :: rest => [] :: cut rest
  | c :: rest => match cut rest with
    | [] => [[c]]
    | s :: more => (c :: s) :: more

/-- The segments of a target behind its first slash. -/
def segments (target : String) : List Segment :=
  match path target with
  | '/' :: rest => cut rest
  | _ => [[]]

/-- The bytes that a segment denotes. A percent sign without two digits stands for itself. -/
def bytes : Segment → List UInt8
  | '%' :: a :: b :: rest => match Hex.digit? a, Hex.digit? b with
    | some high, some low => UInt8.ofNat (high * 16 + low) :: bytes rest
    | _, _ => 37 :: bytes (a :: b :: rest)
  | c :: rest => c.toString.toUTF8.toList ++ bytes rest
  | [] => []
termination_by s => s.length

/-- The text that a segment denotes, if its bytes are the encoding of one. -/
def text? (s : Segment) : Option String := String.fromUTF8? ⟨(bytes s).toArray⟩

end Target

end TxGateway.Http
