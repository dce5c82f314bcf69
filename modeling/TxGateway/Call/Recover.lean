import TxGateway.Call.Obtain

/-!
# Recovery after a restart

All remembered accounts and those of the signer are brought up to date; then every stored record is
taken in, and the nonce of each live one is claimed again. A nonce that the chain has confirmed in
the meantime, or that is claimed already, stays as it is.
-/

namespace TxGateway

/-- Where a recovery stands. -/
inductive Recover
  /-- The remembered accounts have been asked for; the signer holds these. -/
  | listing (held : List Address)
  /-- An account is being brought up to date. -/
  | reconciling (account : Address) (r : Reconcile) (rest : List Address)
  /-- The stored records have been asked for. -/
  | loading
  /-- The nonce of a live record is being claimed; so many records there are in all. -/
  | claiming (record : Record) (o : Obtain) (rest : List Record) (total : Nat)
  deriving DecidableEq, Repr

namespace Recover

/-- What is waited for. -/
def query : Recover → Query
  | listing _ => .storedAccounts
  | reconciling a r _ => r.query a
  | loading => .storedRecords
  | claiming record o _ _ => o.query record.account

/-- Goes on with the accounts that are left, then with the records. -/
def nextAccount : List Address → Recover
  | [] => .loading
  | a :: rest => .reconciling a .asking rest

/-- Takes records in, up to the first live one, whose nonce is to be claimed. -/
def takeIn (total : Nat) (g : Gateway) :
    List Record → Gateway × Progress Recover (Except Failure Nat)
  | [] => (g, .ended (.ok total))
  | r :: rest =>
    let g := g.restore r
    if r.isLive then
      let (g, o) := Obtain.start r.account g
      (g, .waiting (.claiming r o rest total))
    else takeIn total g rest

/-- Adds to a list of accounts those of another that it lacks. -/
def union (as held : List Address) : List Address :=
  held.foldl (fun all a => if a ∈ all then all else all ++ [a]) as

/-- Goes on with an answer; the result is the number of records. -/
def resume (now : Timestamp) (g : Gateway) :
    Recover → Reply → Gateway × Progress Recover (Except Failure Nat)
  | listing held, .accounts as => (g, .waiting (nextAccount (union as held)))
  | listing _, .failed e => (g, .ended (.error e))
  | reconciling a r rest, reply => match r.resume a now g reply with
    | (g, .waiting r) => (g, .waiting (.reconciling a r rest))
    | (g, .ended (.ok _)) => (g, .waiting (nextAccount rest))
    | (g, .ended (.error e)) => (g, .ended (.error e))
  | loading, .records rs => takeIn rs.length g rs
  | loading, .failed e => (g, .ended (.error e))
  | claiming record o rest total, reply =>
    match o.resume record.account (.named record.nonce) now g reply with
    | (g, .waiting o) => (g, .waiting (.claiming record o rest total))
    | (g, .ended (.ok _)) => takeIn total g rest
    | (g, .ended (.error (.nonceTaken ..))) => takeIn total g rest
    | (g, .ended (.error e)) => (g, .ended (.error e))
  | call, _ => (g, .waiting call)

end Recover

end TxGateway
