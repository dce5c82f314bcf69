/-!
# Media types

A media type is a type, a subtype that may end in a suffix behind a plus sign, and parameters. Case
does not matter.
-/

namespace TxGateway.Http

/-- The parts of a media type that decide how a body is read. -/
structure MediaType where
  /-- What stands in front of the slash. -/
  main : String
  /-- What stands between the slash and the last plus sign. -/
  sub : String
  /-- What stands behind the last plus sign. -/
  suffix : Option String
  deriving DecidableEq, Repr

namespace MediaType

/-- Characters of a name. -/
def isTokenChar (c : Char) : Bool :=
  c.isAlphanum || "!#$%&'*+-.^_`|~".toList.contains c

/-- Characters inside of quotes. -/
def isQuotable (c : Char) : Bool := 31 < c.toNat && c.toNat < 127

/-- Behind a quoted value: the text after the next semicolon, or the end. -/
def afterQuoted? : List Char → Option (List Char)
  | [] => some []
  | ';' :: rest => some rest
  | ' ' :: rest => afterQuoted? rest
  | _ :: _ => none

/-- The text behind the value of a parameter. A value in quotes has a first character, which may be
a quote itself, and ends at the next quote. -/
def dropValue? : List Char → Option (List Char)
  | '"' :: c :: rest => match rest.span (· ≠ '"') with
    | (inner, '"' :: rest) => if (c :: inner).all isQuotable then afterQuoted? rest else none
    | _ => none
  | cs => match cs.span isTokenChar with
    | (_, []) => some []
    | (_ :: _, ';' :: rest) => some rest
    | _ => none

/-- Whether a text of at most `fuel` characters is a list of parameters. -/
def hasParameters : (fuel : Nat) → List Char → Bool
  | _, [] => true
  | 0, _ => false
  | fuel + 1, ' ' :: rest => hasParameters fuel rest
  | fuel + 1, cs => match cs.span isTokenChar with
    | (_ :: _, '=' :: rest) => match dropValue? rest with
      | some rest => hasParameters fuel rest
      | none => false
    | _ => false

/-- The position behind the last plus sign of a subtype splits it; one in front does not count. -/
def splitSuffix (cs : List Char) : List Char × Option (List Char) :=
  match cs.reverse.span (· ≠ '+') with
  | (suffix, '+' :: front@(_ :: _)) => (front.reverse, some suffix.reverse)
  | _ => (cs, none)

/-- Text in lower case. -/
def lower (cs : List Char) : String := String.ofList (cs.map Char.toLower)

/-- The media type that a text denotes. -/
def ofText? (s : String) : Option MediaType :=
  match s.toList.span isTokenChar with
  | (main@(_ :: _), '/' :: rest) =>
    let (sub, rest) := rest.span isTokenChar
    let isWhole := match sub, rest with
      | _, [] => true
      | _ :: _, ';' :: parameters => hasParameters parameters.length parameters
      | _, _ => false
    if isWhole then
      let (sub, suffix) := splitSuffix sub
      some ⟨lower main, lower sub, suffix.map lower⟩
    else none
  | _ => none

/-- Whether a body of this type is structured data. -/
def isJson (m : MediaType) : Bool :=
  m.main == "application" && (m.sub == "json" || m.suffix == some "json")

end MediaType

end TxGateway.Http
