import TxGateway.Ending
import TxGateway.Envelope
import TxGateway.GasPolicy
import TxGateway.Table
import TxGateway.Text.Blank

/-!
# The wallet

Private keys of the accounts that the gateway signs for, read from a text in which commas separate
them.
-/

namespace TxGateway

/-- The keys that a gateway holds. -/
structure Wallet where
  /-- The number of the chain that is signed for. -/
  chainId : Nat
  /-- The key of each account. -/
  keys : Table Address PrivateKey

namespace Wallet

/-- A text without `0x` or `0X` in front. -/
def dropMark : List Char → List Char
  | '0' :: 'x' :: rest | '0' :: 'X' :: rest => rest
  | cs => cs

/-- Bytes of two digits each; none if there is another character or a digit left over. -/
def bytes? : List Char → Option Bytes
  | [] => some []
  | a :: b :: rest => do
    let high ← Hex.digit? a
    let low ← Hex.digit? b
    let bs ← bytes? rest
    pure (UInt8.ofNat (high * 16 + low) :: bs)
  | [_] => none

/-- A text without `0X` in front. -/
def dropUpperMark : List Char → List Char
  | '0' :: 'X' :: rest => rest
  | cs => cs

/-- The key that a text denotes. A mark in upper case may stand in front of another mark. -/
def key? (cs : List Char) : Option PrivateKey :=
  (bytes? (dropMark (dropUpperMark cs))).bind PrivateKey.ofBytes?

/-- The account of a key. -/
def account (k : PrivateKey) : Address := .ofBytes k.accountBytes

/-- Reads keys from a text; `none` if there is no text. The name tells where it was looked for. -/
def ofText (chainId : Nat) (name : String) : Option String → Except Failure Wallet
  | none => .error (.configuration ("No wallet configured. Set " ++ name))
  | some text =>
    let written := ((Text.splitAt ',' text.toList).map Text.trim).filter (· ≠ [])
    match written.mapM key? with
    | none => .error (.configuration "Invalid private key")
    | some [] => .error (.configuration "No private keys provided")
    | some keys =>
      .ok { chainId := chainId, keys := keys.foldl (fun t k => t.set (account k) k) ∅ }

/-- The accounts that can sign, in ascending order. -/
def accounts (w : Wallet) : List Address := Address.sorted w.keys.keys

/-- Signs a transaction of an account. Signed bytes are handed out only together with the most that
the transaction can cost, which has to be a word. -/
def sign (w : Wallet) (a : Address) (payload : Payload) (nonce : Nat) (price : Price) :
    Ending Bytes :=
  match w.keys.get? a with
  | none => .returned (.error (.signing a "no key held for account"))
  | some k =>
    let e : Envelope := ⟨w.chainId, nonce, price, payload⟩
    match k.sign? e.digest, GasPolicy.cost? payload.gasLimit price with
    | none, _ => .returned (.error (.signing a "no signature found"))
    | some _, none => .crashed .priceOverflow
    | some s, some _ => .ofValue (e.signed s)

end Wallet

end TxGateway
