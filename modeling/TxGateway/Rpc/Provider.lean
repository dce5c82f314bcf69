import TxGateway.Rpc.Fees
import TxGateway.Rpc.Nodes

/-!
# The chain behind its nodes

How the questions that a gateway has for the chain are put to nodes.
-/

namespace TxGateway.Rpc

/-- The chain as a gateway sees it. -/
structure Provider where
  /-- What the operator has set. -/
  settings : ChainSettings
  /-- The nodes, which all calls share. -/
  nodes : Nodes

/-- A question on its way. -/
inductive Inquiry
  /-- It may be put so many times yet; the answer may be of interest only for its being there. -/
  | repeated (question : Question) (left : Nat) (asHealth : Bool)
  /-- It is put once. -/
  | once (question : Question)
  deriving DecidableEq, Repr

namespace Inquiry

/-- The question. -/
def question : Inquiry → Question
  | repeated q _ _ | once q => q

end Inquiry

namespace Provider

/-- The chain whose nodes are at the given addresses. Those that are no addresses are left out. -/
def ofSettings (isAddress : String → Bool) (s : ChainSettings) : Except Failure Provider :=
  let size := (s.rpcUrls.filter isAddress).length
  if h : 0 < size then .ok ⟨s, { size := size, pos := h }⟩
  else .error
    (.configuration ("No valid RPC providers for chain " ++ toString s.chainId))

/-- Makes the next node active. -/
def failover (p : Provider) : Provider := { p with nodes := p.nodes.failover }

/-- Puts a question to as many nodes as it takes. -/
def reading (p : Provider) (q : Question) : Inquiry := .repeated q p.nodes.size false

/-- How a question of the gateway is put, if it is one for the chain. -/
def ask? (p : Provider) : Query → Option Inquiry
  | .count a => some (p.reading (.count a))
  | .receipt h => some (p.reading (.receipt h))
  | .transaction h => some (p.reading (.transaction h))
  | .gasPrice => match p.settings.strategy with
    | .legacy => some (.once .gasPrice)
    | .dynamic => some (.once .baseFee)
  | .broadcast raw => some (.once (.send raw))
  | .chainHealth => some (.repeated .blockNumber p.nodes.size true)
  | _ => none

/-- A number as a counter of 64 bits. -/
def counter (n : Word) : Reply :=
  if n.toNat < Nat.pow 2 64 then .count n.toNat else .crashed .counterOverflow

/-- What the answer of a node means. -/
def meaning (p : Provider) (q : Question) : NodeReply → Reply
  | .number n => match q with
    | .gasPrice => .price (.legacy n)
    | _ => counter n
  | .receipt r => .receipt r
  | .transaction body =>
    if body.all fun b => b.nonce < Nat.pow 2 64 then .transaction body
    else .crashed .counterOverflow
  | .block none => .failed (.network q.operation "no latest block")
  | .block (some none) => .failed (.internal "No base fee in block")
  | .block (some (some fee)) => match Fees.price? p.settings.maxGasPriceGwei fee with
    | some price => .price price
    | none => .crashed .priceOverflow
  | .hash h => .accepted h
  | .refused _ reason => match q with
    | .send _ => .rejected reason
    | _ => .failed (.network q.operation reason)
  | .lost detail => match q with
    | .send _ => .unreachable detail
    | _ => .failed (.network q.operation detail)

/-- What remains of an answer that is of interest only for its being there. -/
def health : Reply → Reply
  | .failed _ => .health false
  | .crashed c => .crashed c
  | _ => .health true

/-- Goes on with the answer of a node. -/
def resume (p : Provider) (i : Inquiry) (reply : NodeReply) :
    Provider × Progress Inquiry Reply :=
  match i with
  | .once q => match q, reply.trouble? with
    | .send _, _ | _, none => (p, .ended (p.meaning q reply))
    | q, some detail => (p, .ended (.failed (.network q.operation detail)))
  | .repeated q left asHealth => match reply.trouble? with
    | none =>
      let answer := p.meaning q reply
      (p, .ended (if asHealth then health answer else answer))
    | some detail =>
      let p := p.failover
      if 1 < left then (p, .waiting (.repeated q (left - 1) asHealth))
      else
        (p, .ended (if asHealth then .health false else .failed (.network q.operation detail)))

/-- Puts a question to nodes that answer as given, at most `fuel` times. -/
def run (node : Nat → Question → NodeReply) : (fuel : Nat) → Provider → Inquiry →
    Provider × Option Reply
  | 0, p, _ => (p, none)
  | fuel + 1, p, i => match p.resume i (node p.nodes.current i.question) with
    | (p, .waiting i) => run node fuel p i
    | (p, .ended answer) => (p, some answer)

/-- The answer to a question from nodes that answer as given. -/
def answer (node : Nat → Question → NodeReply) (p : Provider) (i : Inquiry) :
    Provider × Option Reply :=
  run node (p.nodes.size + 1) p i

end Provider

end TxGateway.Rpc
