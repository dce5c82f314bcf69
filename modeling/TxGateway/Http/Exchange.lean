import TxGateway.Call
import TxGateway.Http.Approval
import TxGateway.Http.MediaType
import TxGateway.Http.Response
import TxGateway.Http.Target
import TxGateway.Metrics.Exposition

/-!
# Requests to a gateway

A request is answered at once, or it sets a task going and is answered when the task ends.
-/

namespace TxGateway.Http

/-- What a client sends. -/
structure Inquiry where
  /-- The method, in capitals. -/
  method : String := "GET"
  /-- The target. -/
  target : String
  /-- The type of the body, if it is named. -/
  contentType : Option String := none
  /-- The body. -/
  body : String := ""
  deriving DecidableEq, Repr

/-- How the end of a task is told to the client. -/
inductive Form
  /-- Whether the gateway is ready. -/
  | readiness
  /-- The nonce of an account. -/
  | nonce (account : Address)
  /-- The submission of an approval. -/
  | approval (token spender : Address) (amount : Word)
  /-- A record after a poll. -/
  | poll
  deriving DecidableEq, Repr

/-- What a request leads to. -/
inductive Handling
  /-- It is answered. -/
  | answered (r : Response)
  /-- It is answered when a task has ended; without a body if that is all the client wants. -/
  | pending (task : Task) (form : Form) (bodyless : Bool)

/-- The version that a gateway reports. -/
def version : String := "0.1.0"

/-- The report that the gateway is up. -/
def health : Response :=
  .ok (.object [("status", .string "ok"), ("version", .string version)])

/-- A ledger as structured data. -/
def ledgerJson (account : Address) (s : Ledger.Snapshot) : Json :=
  .object
    [("account", account.toJson),
      ("next_nonce", .nat s.next),
      ("pending", .array (s.pending.map .nat)),
      ("last_reconciled_chain_count", .nat s.confirmed),
      ("reconciled_secs_ago", .ofOption .nat s.refreshedSecondsAgo)]

/-- The report on the whole gateway. -/
def status (p : Policy) (now : Timestamp) (g : Gateway) : Response :=
  .ok <| .object
    [("version", .string version),
      ("instance_id", .string p.instanceId),
      ("uptime_seconds", .nat (now.since g.startedAt).toSeconds),
      ("transactions", .object (g.watchlist.stats.map fun (label, n) => (label, .nat n))),
      ("accounts", .array <| (Address.sorted g.knownAccounts).filterMap fun a =>
        (g.snapshot? now a).map (ledgerJson a))]

/-- The account named in a path. -/
def account? (s : Segment) : Except Response Address :=
  match Target.text? s with
  | none => .error (.undecodable "address")
  | some raw => match Address.read raw with
    | .error _ => .error (.invalid "address" raw)
    | .ok a => .ok a

/-- The transaction named in a path. -/
def hash? (s : Segment) : Except Response TxHash :=
  match Target.text? s with
  | none => .error (.undecodable "tx_hash")
  | some raw => match TxHash.read raw with
    | .error _ => .error (.invalid "transaction hash" raw)
    | .ok h => .ok h

/-- What is known about a transaction. -/
def lookup (g : Gateway) (h : TxHash) : Response :=
  match g.watchlist.lookup? h with
  | none => .ofFailure (.unknownTransaction h)
  | some r => .ok r.toJson

/-- The greatest number of bytes in a body. -/
def bodyLimit : Nat := 2097152

/-- The approval that a request asks for. -/
def approval? (q : Inquiry) : Except Response Approval :=
  match q.contentType.bind MediaType.ofText? with
  | none => .error .unsupportedType
  | some m =>
    if !m.isJson then .error .unsupportedType
    else if bodyLimit < q.body.utf8ByteSize then .error .tooLong
    else match Approval.reader.ofText q.body with
      | .error .malformed => .error .unreadable
      | .error .mismatched => .error .unprocessable
      | .ok a => .ok a

/-- Handles a request for an approval. An amount that denotes nothing is refused before anything
else happens. -/
def approve (a : Approval) : Handling :=
  let submit (amount : Option Word) : Handling :=
    .pending (.submit (a.request amount))
      (.approval a.token a.spender (amount.getD Word.greatest)) false
  match a.amount with
  | none => submit none
  | some raw => match Amount.ofText? raw with
    | none => .answered (.invalid "amount" raw)
    | some amount => submit (some amount)

/-- What a resource does when it is read. -/
inductive Resource
  | health
  | readiness
  | status
  | nonce (s : Segment)
  | approval
  | poll (s : Segment)
  | transaction (s : Segment)
  deriving DecidableEq, Repr

namespace Resource

/-- The resource at a path. Its parameters are not empty. -/
def ofSegments? : List Segment → Option Resource
  | [name] =>
    if name = "health".toList then some health
    else if name = "ready".toList then some readiness
    else if name = "status".toList then some status
    else if name = "approve".toList then some approval
    else none
  | [name, parameter] =>
    if parameter = [] then none
    else if name = "nonce".toList then some (nonce parameter)
    else if name = "poll".toList then some (poll parameter)
    else if name = "transactions".toList then some (transaction parameter)
    else none
  | _ => none

/-- Whether a resource takes a method. Whatever can be read can be read without its body. -/
def takes (r : Resource) (method : String) : Bool :=
  match r with
  | approval => method == "POST"
  | _ => method == "GET" || method == "HEAD"

end Resource

/-- Handles a request that has found its resource. -/
def serve (p : Policy) (now : Timestamp) (g : Gateway) (q : Inquiry) (bodyless : Bool) :
    Resource → Handling
  | .health => .answered health
  | .readiness => .pending .readiness .readiness bodyless
  | .status => .answered (status p now g)
  | .nonce s => match account? s with
    | .error r => .answered r
    | .ok a => .pending (.currentNonce a) (.nonce a) bodyless
  | .approval => match approval? q with
    | .error r => .answered r
    | .ok a => approve a
  | .poll s => match hash? s with
    | .error r => .answered r
    | .ok h => .pending (.settle h) .poll bodyless
  | .transaction s => match hash? s with
    | .error r => .answered r
    | .ok h => .answered (lookup g h)

/-- Handles a request. -/
def handle (p : Policy) (now : Timestamp) (g : Gateway) (q : Inquiry) : Handling :=
  match Resource.ofSegments? (Target.segments q.target) with
  | none => .answered .notFound
  | some r =>
    if !r.takes q.method then .answered .methodNotAllowed
    else
      let bodyless := q.method == "HEAD"
      match serve p now g q bodyless r with
      | .answered response => .answered (if bodyless then response.withoutBody else response)
      | pending => pending

/-- The members by which a submission shows in structured data. -/
def submissionMembers (s : Submission) : List (String × Json) :=
  [("id", .string s.id.text), ("account", s.account.toJson), ("nonce", .nat s.nonce),
    ("tx_hash", s.hash.toJson)]

/-- The members by which an observation shows in structured data. -/
def observationMembers (o : Watchlist.Observation) : List (String × Json) :=
  o.record.members ++ [("changed", .bool o.changed)]

/-- The response to a task that has returned. -/
def Form.response (form : Form) : Except Failure Outcome → Response
  | .error e => .ofFailure e
  | .ok outcome => match form, outcome with
    | readiness, .readiness store chain =>
      ⟨if store && chain then 200 else 503,
        .json (.object [("ready", .bool (store && chain)), ("store", .bool store),
          ("chain", .bool chain)])⟩
    | nonce account, .nonce n =>
      .ok (.object [("account", account.toJson), ("nonce", .nat n)])
    | approval token spender amount, .submitted s =>
      .ok (.object (submissionMembers s ++ [("token", token.toJson),
        ("spender", spender.toJson), ("amount", amount.toJson)]))
    | poll, .observed o => .ok (.object (observationMembers o))
    | _, _ => .bare 200

/-- Where metrics are exposed. -/
def metricsHost : String := "0.0.0.0"

/-- Handles a request for metrics. -/
def exposition (r : Registry) (q : Inquiry) : Response :=
  match Target.segments q.target with
  | [name] =>
    if name ≠ "metrics".toList then .notFound
    else if q.method == "GET" then ⟨200, .plain r.text⟩
    else if q.method == "HEAD" then ⟨200, .empty⟩
    else .methodNotAllowed
  | _ => .notFound

end TxGateway.Http
