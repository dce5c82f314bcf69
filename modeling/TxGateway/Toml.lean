import TxGateway.Table

/-!
# Configuration documents

The values of the TOML format, and how the statements of a document build one table. A table is
open to later statements only in the way in which it came to be: one that a header has named may
not be named again, one made by a dotted name takes dotted names only, one written as a value takes
none.
-/

namespace TxGateway

/-- How a table came to be. -/
inductive TableOrigin
  /-- It was written as a value. -/
  | written
  /-- A header names it. -/
  | named
  /-- A header names a table inside of it. -/
  | implied
  /-- A dotted name leads through it. -/
  | dotted
  deriving DecidableEq, Repr

/-- A value of a document. -/
inductive Toml
  /-- A text. -/
  | string (s : String)
  /-- A whole number. -/
  | integer (n : Int)
  /-- A number with a fraction or an exponent, an infinity or no number. -/
  | decimal
  /-- A truth value. -/
  | bool (b : Bool)
  /-- A date, a time or both. -/
  | moment
  /-- A sequence. -/
  | array (items : List Toml)
  /-- Named values. -/
  | table (origin : TableOrigin) (members : List (String × Toml))
  /-- Tables named by headers in double brackets; the last one, and the earlier ones backwards. -/
  | tables (last : List (String × Toml)) (earlier : List (List (String × Toml)))

namespace Toml

/-- Named values. -/
abbrev Members := List (String × Toml)

/-- A statement of a document. -/
inductive Statement
  /-- A value under a name that may be dotted: the names that lead to it, and its own. -/
  | pair (path : List String) (name : String) (value : Toml)
  /-- A header: the names that lead to the table, and its own. -/
  | header (path : List String) (name : String)
  /-- A header in double brackets. -/
  | arrayHeader (path : List String) (name : String)

/-- Stores a value under a name that is still free, inside of tables made by dotted names. -/
def insert (name : String) (value : Toml) : List String → Members → Option Members
  | [], ms =>
    match Entries.get? name ms with
    | none => some (ms ++ [(name, value)])
    | some _ => none
  | k :: path, ms => match Entries.get? k ms with
    | none => (insert name value path []).map fun inner => Entries.set k (table .dotted inner) ms
    | some (table .dotted inner) =>
      (insert name value path inner).map fun inner => Entries.set k (table .dotted inner) ms
    | some (table .implied inner) =>
      if path = [] then none
      else (insert name value path inner).map fun inner => Entries.set k (table .implied inner) ms
    | some (tables last earlier) =>
      if path = [] then none
      else (insert name value path last).map fun last => Entries.set k (tables last earlier) ms
    | some _ => none

/-- Changes the table at the end of a path, of an array of tables always the last one. -/
def descend (f : Members → Option Members) : List String → Members → Option Members
  | [], ms => f ms
  | k :: path, ms => match Entries.get? k ms with
    | none => (descend f path []).map fun inner => Entries.set k (table .implied inner) ms
    | some (table .written _) => none
    | some (table origin inner) =>
      (descend f path inner).map fun inner => Entries.set k (table origin inner) ms
    | some (tables last earlier) =>
      (descend f path last).map fun last => Entries.set k (tables last earlier) ms
    | some _ => none

/-- Opens a table that no header has named. -/
def openTable (name : String) (ms : Members) : Option Members :=
  match Entries.get? name ms with
  | none => some (ms ++ [(name, table .named [])])
  | some (table .implied inner) => some (Entries.set name (table .named inner) ms)
  | some _ => none

/-- Opens one more table of an array of tables. -/
def openItem (name : String) (ms : Members) : Option Members :=
  match Entries.get? name ms with
  | none => some (ms ++ [(name, tables [] [])])
  | some (tables last earlier) => some (Entries.set name (tables [] (last :: earlier)) ms)
  | some _ => none

/-- Follows the statements of a document, from a table that is open. -/
def follow (opened : List String) (root : Members) : List Statement → Option Members
  | [] => some root
  | .pair path name value :: rest => do
    let root ← descend (insert name value path) opened root
    follow opened root rest
  | .header path name :: rest => do
    let root ← descend (openTable name) path root
    follow (path ++ [name]) root rest
  | .arrayHeader path name :: rest => do
    let root ← descend (openItem name) path root
    follow (path ++ [name]) root rest

/-- The table that a document denotes. -/
def ofStatements? (statements : List Statement) : Option Members := follow [] [] statements

/-- The table that is written as a value. -/
def ofPairs? (pairs : List (List String × String × Toml)) : Option Toml :=
  (pairs.foldlM (fun ms (path, name, value) => insert name value path ms) []).map (table .written)

end Toml

end TxGateway
