import TxGateway.Failure
import TxGateway.Json

/-!
# Responses

A response is a status code and, unless the request never reached an endpoint, a value or a text.
-/

namespace TxGateway.Http

/-- What a response holds. -/
inductive Body
  /-- Nothing. -/
  | empty
  /-- Structured data. -/
  | json (v : Json)
  /-- A text. -/
  | plain (s : String)

namespace Body

/-- The text of a body. -/
def text : Body → String
  | empty => ""
  | json v => v.text
  | plain s => s

end Body

/-- The answer to a request. -/
structure Response where
  /-- The status code. -/
  status : Nat
  /-- The body. -/
  body : Body

namespace Response

/-- A successful response. -/
def ok (v : Json) : Response := ⟨200, .json v⟩

/-- A response of the listener itself. -/
def bare (status : Nat) : Response := ⟨status, .empty⟩

/-- No such path. -/
def notFound : Response := bare 404

/-- The path does not take the method. -/
def methodNotAllowed : Response := bare 405

/-- The body is no structured data. -/
def unreadable : Response := bare 400

/-- A parameter of the path is not the encoding of a text. -/
def undecodable (parameter : String) : Response :=
  ⟨400, .plain ("Invalid URL: Invalid UTF-8 in `" ++ parameter ++ "`")⟩

/-- The body is too long. -/
def tooLong : Response := bare 413

/-- The body is not of a known type. -/
def unsupportedType : Response := bare 415

/-- The body has another shape than is wanted. -/
def unprocessable : Response := bare 422

/-- A response that reports an error. -/
def error (status : Nat) (message : String) (retryable : Bool) : Response :=
  ⟨status, .json (.object [("error", .string message), ("retryable", .bool retryable)])⟩

/-- The client has sent a text that denotes nothing. -/
def invalid (what raw : String) : Response :=
  error 400 ("invalid " ++ what ++ ": " ++ raw) false

/-- The status code of a failure. -/
def statusOf : Failure → Nat
  | .unknownTransaction _ | .unknownAccount _ => 404
  | .network .. => 502
  | .timeout _ => 504
  | .nonceTaken .. => 409
  | .rejected .. => 422
  | .signing .. => 400
  | .configuration _ | .database _ | .violation _ | .internal _ => 500

/-- The response to a call that has failed. -/
def ofFailure (e : Failure) : Response := error (statusOf e) e.message e.retryable

/-- The same response without its body. -/
def withoutBody (r : Response) : Response := { r with body := .empty }

end Response

end TxGateway.Http
