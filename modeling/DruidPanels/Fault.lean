/-! # Faults

`ServiceError` is every refusal that a caller is told about, with its wording and
its HTTP status. `Fault` adds the one outcome that is no answer at all: a
computation that had to be abandoned. -/

namespace DruidPanels

/-- What a caller is told when a request is not answered. -/
inductive ServiceError where
  /-- The API key is missing or wrong. -/
  | auth
  /-- The request itself makes no sense; the broker was not asked. -/
  | invalidRequest (reason : String)
  /-- The broker could not be reached. -/
  | transport (reason : String)
  /-- The broker answered with an error status. -/
  | brokerStatus (status : Nat) (body : String)
  /-- The broker's answer cannot be understood. -/
  | unexpectedResponse (reason : String)
  /-- Anything else; its cause is not shown. -/
  | internal (cause : String)
deriving DecidableEq, Repr

namespace ServiceError

def message : ServiceError → String
  | .auth => "authentication failed"
  | .invalidRequest reason => "invalid request: " ++ reason
  | .transport reason => "druid request failed: " ++ reason
  | .brokerStatus status body => "druid returned status " ++ toString status ++ ": " ++ body
  | .unexpectedResponse reason => "unexpected druid response: " ++ reason
  | .internal _ => "internal error"

/-- The HTTP status of an error: 502 wherever the broker is to blame. -/
def status : ServiceError → Nat
  | .auth => 401
  | .invalidRequest _ => 400
  | .transport _ => 502
  | .brokerStatus _ _ => 502
  | .unexpectedResponse _ => 502
  | .internal _ => 500

end ServiceError

/-- Why a computation has no result. -/
inductive Fault where
  /-- It was refused, and the caller is told so. -/
  | error (e : ServiceError)
  /-- It was abandoned: a time or a span of time left the range in which it can be computed. -/
  | abort
deriving DecidableEq, Repr

end DruidPanels
