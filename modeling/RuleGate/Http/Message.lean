import RuleGate.Http.Header
import RuleGate.Http.Status
import RuleGate.Http.Target

/-! # Requests and responses -/
namespace RuleGate

/-- The bytes that a body yields, and whether it breaks off after them. -/
structure Body where
  bytes : Bytes
  broken : Bool := false
  deriving DecidableEq

def Body.empty : Body := { bytes := [] }

structure Request where
  method : Text
  target : Target
  headers : Headers
  body : Body
  deriving DecidableEq

structure Response where
  status : Status
  headers : Headers
  body : Body
  deriving DecidableEq

namespace Response

/-- A response that is a status alone. -/
def bare (status : Status) : Response := ⟨status, [], Body.empty⟩

/-- A response with a line of text. -/
def plain (status : Status) (message : Text) : Response :=
  ⟨status, [(text "content-type", Utf8.encode (text "text/plain; charset=utf-8"))],
    { bytes := Utf8.encode message }⟩

def withoutBody (r : Response) : Response := { r with body := Body.empty }

end Response

end RuleGate
