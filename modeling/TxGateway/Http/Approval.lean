import TxGateway.Receipt.Json

/-!
# Approval requests

The body of a request for a token approval, and the written form of an amount: decimal digits, or
hexadecimal ones behind `0x`.
-/

namespace TxGateway.Http

namespace Amount

/-- The number that decimal digits denote; none if another character occurs. -/
def decimal? (cs : List Char) : Option Nat :=
  if cs.all Char.isDigit then
    some (cs.foldl (fun n c => n * 10 + (c.toNat - '0'.toNat)) 0)
  else none

/-- The number that at most 64 hexadecimal digits denote; a second mark may stand in front. -/
def hexadecimal? (cs : List Char) : Option Nat :=
  let ds := Hex.dropMark cs
  if ds.length ≤ 64 then (ds.mapM Hex.digit?).map Hex.value else none

/-- The amount that a text denotes. -/
def ofText? (s : String) : Option Word :=
  match s.toList with
  | '0' :: 'x' :: rest => (hexadecimal? rest).bind Word.ofNat?
  | cs => (decimal? cs).bind Word.ofNat?

end Amount

/-- What a client asks for. -/
structure Approval where
  /-- The account that signs. -/
  account : Address
  /-- The token. -/
  token : Address
  /-- Who may move it. -/
  spender : Address
  /-- How much, as written; anything if absent. -/
  amount : Option String
  /-- The nonce, if the client has chosen it. -/
  nonce : Option Nat
  /-- The most gas that may be burnt. -/
  gasLimit : Option Nat
  deriving DecidableEq, Repr

namespace Approval

/-- An approval of which some fields have been read. -/
structure Draft where
  /-- The signing account, if read. -/
  account : Option Address := none
  /-- The token, if read. -/
  token : Option Address := none
  /-- The spender, if read. -/
  spender : Option Address := none
  /-- The amount, if read. -/
  amount : Option (Option String) := none
  /-- The nonce, if read. -/
  nonce : Option (Option Nat) := none
  /-- The gas limit, if read. -/
  gasLimit : Option (Option Nat) := none

namespace Draft

/-- The fields of an approval in their order. -/
def fields : List (Json.Field Draft) :=
  [.ofReader "address" account (fun d a => { d with account := some a }) Address.reader,
    .ofReader "token" token (fun d a => { d with token := some a }) Address.reader,
    .ofReader "spender" spender (fun d a => { d with spender := some a }) Address.reader,
    .ofReader "amount" amount (fun d a => { d with amount := some a }) (.optional .string),
    .ofReader "nonce" nonce (fun d a => { d with nonce := some a }) (.optional .natural),
    .ofReader "gas_limit" gasLimit (fun d a => { d with gasLimit := some a })
      (.optional .natural)]

/-- The approval, once the fields that it cannot do without have been read. -/
def finish (d : Draft) : Option Approval := do
  let account ← d.account
  let token ← d.token
  let spender ← d.spender
  pure ⟨account, token, spender, d.amount.getD none, d.nonce.getD none, d.gasLimit.getD none⟩

end Draft

/-- Reads an approval. -/
def reader : Json.Reader Approval := .record Draft.fields {} Draft.finish

/-- The gas limit of an approval that names none. -/
def defaultGasLimit : Nat := 100000

/-- The request for an approval of an amount. -/
def request (a : Approval) (amount : Option Word) : Request where
  account := a.account
  payload := .approval a.token a.spender amount
    (BitVec.ofNat 256 (a.gasLimit.getD defaultGasLimit))
  choice := match a.nonce with
    | none => .next
    | some n => .named n

end Approval

end TxGateway.Http
