import TxGateway.Json.Token

/-!
# Reading values of a known shape

A reader goes through the tokens of a text once, from the left, and stops at the first fault. A
text that is no JSON up to there is malformed; a value of another shape is mismatched. A record may
stand as an object, in which unknown names are passed over and no known one may come twice, or as
an array of all its fields in their order.
-/

namespace TxGateway.Json

/-- The first fault of a text. -/
inductive Fault
  /-- No such value can begin or go on like this. -/
  | malformed
  /-- The value has another shape than is wanted. -/
  | mismatched
  deriving DecidableEq, Repr

/-- Reads a value at the head of a list of tokens; gives the tokens behind it. -/
abbrev Reader (α : Type) := List Token → Except Fault (α × List Token)

namespace Reader

/-- The fault of a value that is not of the wanted kind. -/
def wrongKind {α : Type} : List Token → Except Fault α
  | .null :: _ | .bool _ :: _ | .openObject :: _ | .openArray :: _ => .error .mismatched
  | .number .tooGreat :: _ | .string none :: _ => .error .malformed
  | .number _ :: _ | .string (some _) :: _ => .error .mismatched
  | _ => .error .malformed

/-- Reads a text. -/
def string : Reader String
  | .string (some s) :: ts => .ok (s, ts)
  | ts => wrongKind ts

/-- Reads a natural number below `2 ^ 64`. -/
def natural : Reader Nat
  | ts@(.number (.whole false n) :: rest) =>
    if n < Nat.pow 2 64 then .ok (n, rest) else wrongKind ts
  | ts => wrongKind ts

/-- Reads a truth value. -/
def bool : Reader Bool
  | .bool b :: ts => .ok (b, ts)
  | ts => wrongKind ts

/-- Reads nothing or a value. -/
def optional {α : Type} (r : Reader α) : Reader (Option α)
  | .null :: ts => .ok (none, ts)
  | ts => (r ts).map fun (a, ts) => (some a, ts)

/-- Reads a text that denotes a value. -/
def written {α : Type} (f : String → Option α) : Reader α := fun ts =>
  match string ts with
  | .error fault => .error fault
  | .ok (s, rest) => match f s with
    | none => .error .mismatched
    | some a => .ok (a, rest)

/-- What may come next while a value is passed over. -/
inductive Expected
  /-- A value. -/
  | value
  /-- A value, or the end of an array. -/
  | firstItem
  /-- A name, or the end of an object. -/
  | firstName
  /-- A name. -/
  | name
  /-- The colon behind a name. -/
  | colon
  /-- What may stand behind a value. -/
  | behind
  deriving DecidableEq, Repr

/-- Passes over a value; `nest` tells for each open bracket whether it belongs to an object. -/
def pass (expected : Expected) (nest : List Bool) (ts : List Token) :
    Except Fault (List Token) :=
  match expected, nest, ts with
  | .behind, [], ts => .ok ts
  | _, _, [] => .error .malformed
  | .behind, true :: nest, t :: ts => match t with
    | .comma => pass .name (true :: nest) ts
    | .closeObject => pass .behind nest ts
    | _ => .error .malformed
  | .behind, false :: nest, t :: ts => match t with
    | .comma => pass .value (false :: nest) ts
    | .closeArray => pass .behind nest ts
    | _ => .error .malformed
  | .colon, nest, t :: ts => match t with
    | .colon => pass .value nest ts
    | _ => .error .malformed
  | .name, nest, t :: ts => match t with
    | .string _ => pass .colon nest ts
    | _ => .error .malformed
  | .firstName, nest, t :: ts => match t with
    | .string _ => pass .colon nest ts
    | .closeObject => pass .behind (nest.drop 1) ts
    | _ => .error .malformed
  | .firstItem, nest, .closeArray :: ts => pass .behind (nest.drop 1) ts
  | .firstItem, nest, t :: ts | .value, nest, t :: ts => match t with
    | .null | .bool _ | .number _ | .string _ => pass .behind nest ts
    | .openArray => pass .firstItem (false :: nest) ts
    | .openObject => pass .firstName (true :: nest) ts
    | _ => .error .malformed
termination_by ts.length

end Reader

/-- A field of a record under construction. -/
structure Field (σ : Type) where
  /-- Its name. -/
  name : String
  /-- Whether it has been read. -/
  isRead : σ → Bool
  /-- Reads it. -/
  read : σ → Reader σ

namespace Field

/-- A field that is kept in an optional component. -/
def ofReader {σ α : Type} (name : String) (get : σ → Option α) (set : σ → α → σ)
    (r : Reader α) : Field σ where
  name := name
  isRead acc := (get acc).isSome
  read acc ts := (r ts).map fun (a, ts) => (set acc a, ts)

end Field

namespace Reader

variable {σ : Type}

/-- Reads the value of a named member and takes it into the record. -/
def member (fields : List (Field σ)) (acc : σ) (name : String) (ts : List Token) :
    Except Fault (σ × List Token) :=
  match fields.find? fun f => f.name = name with
  | none => match ts with
    | .colon :: ts => (pass .value [] ts).map fun ts => (acc, ts)
    | _ => .error .malformed
  | some f =>
    if f.isRead acc then .error .mismatched
    else match ts with
      | .colon :: ts => f.read acc ts
      | _ => .error .malformed

/-- Reads the members of an object up to its end. -/
def members (fields : List (Field σ)) (isFirst : Bool) (acc : σ) :
    (fuel : Nat) → Reader σ
  | 0, _ => .error .malformed
  | fuel + 1, ts =>
    let next := match isFirst, ts with
      | true, ts => some ts
      | false, .comma :: ts => some ts
      | false, _ => none
    match ts, next with
    | .closeObject :: ts, _ => .ok (acc, ts)
    | _, some (.string (some name) :: ts) => match member fields acc name ts with
      | .error fault => .error fault
      | .ok (acc, ts) => members fields false acc fuel ts
    | _, _ => .error .malformed

/-- Reads the fields of a record from an array up to its end. -/
def items (isFirst : Bool) (acc : σ) : List (Field σ) → Reader σ
  | [], ts => match ts with
    | .closeArray :: ts => .ok (acc, ts)
    | _ => .error .malformed
  | f :: fields, ts =>
    let next := match isFirst, ts with
      | true, ts => some ts
      | false, .comma :: .closeArray :: _ => none
      | false, .comma :: ts => some ts
      | false, _ => none
    match ts, next with
    | .closeArray :: _, _ => .error .mismatched
    | _, some ts => match f.read acc ts with
      | .error fault => .error fault
      | .ok (acc, ts) => items false acc fields ts
    | _, none => .error .malformed

/-- Reads a record; `finish` gives its value unless a field is missing. -/
def record {α : Type} (fields : List (Field σ)) (empty : σ) (finish : σ → Option α) : Reader α :=
  fun ts =>
    let result := match ts with
      | .openObject :: ts => members fields true empty (ts.length + 1) ts
      | .openArray :: ts => items true empty fields ts
      | ts => wrongKind ts
    match result with
    | .error fault => .error fault
    | .ok (acc, ts) => match finish acc with
      | none => .error .mismatched
      | some a => .ok (a, ts)

/-- Reads the value at the head of a text; what follows it does not matter. -/
def ofText {α : Type} (r : Reader α) (s : String) : Except Fault α :=
  (r (Tokens.ofText s).tokens).map Prod.fst

/-- Reads a text that is one value and nothing else. -/
def ofWholeText? {α : Type} (r : Reader α) (s : String) : Option α :=
  let ts := Tokens.ofText s
  match r ts.tokens with
  | .ok (a, []) => if ts.complete then some a else none
  | _ => none

/-- Reads a value of structured data. -/
def ofJson? {α : Type} (r : Reader α) (v : Json) : Option α :=
  match r v.tokens with
  | .ok (a, []) => some a
  | _ => none

end Reader

end TxGateway.Json
