import RuleGate.Evaluation
import RuleGate.Forward

/-! # The gateway

A gateway evaluates its rules on each request and disposes of it in one of three ways: it answers
by itself, hands the request with the final URL to the next stage, or sends it to a backend. The
content type of the rules goes on a response that has none.
-/
namespace RuleGate

structure Gateway where
  rules : RuleSet
  hop : Text
  encrypted : Bool

/-- A stage answers every request, for which it is given a query mapping if there is a query. -/
abbrev Stage := Request → Option Query → Response

/-- What becomes of a request. -/
inductive Disposal where
  | answer (response : Response)
  | stage (request : Request) (query : Option Query)
  | send (outbound : Outbound)
  deriving DecidableEq

namespace Request

/-- The value of the first field of a name, if it is text. -/
def header? (r : Request) (name : Text) : Option Text :=
  (r.headers.get? name).bind fieldText?

/-- The host that rules see: that of the header, else that of the target. -/
def host (r : Request) : Text :=
  ((r.header? (text "host")).or r.target.authority?).getD []

/-- What rules see of a request. -/
def context (r : Request) (encrypted : Bool) : Context :=
  ⟨r.target.url, r.host, Scheme.detect encrypted (r.header? (text "x-forwarded-proto"))⟩

end Request

/-- A response that points to a location, if a header can hold it. -/
def Response.redirect (status : Status) (location : Text) : Response :=
  let value := Utf8.encode location
  if isFieldValue value then ⟨status, [(text "location", value)], Body.empty⟩
  else Response.bare .internalServerError

/-- A response with a content type unless it has one. -/
def Response.withContentType (r : Response) : Option Bytes → Response
  | none => r
  | some value => { r with headers := r.headers.putNew (text "content-type") value }

namespace Gateway

def evaluate (g : Gateway) (r : Request) : Evaluation := g.rules.evaluate (r.context g.encrypted)

/-- What an evaluation says about a request. -/
def dispose (g : Gateway) (r : Request) (e : Evaluation) : Disposal :=
  match e.outcome with
  | .gone => .answer (Response.bare .gone)
  | .forbidden => .answer (Response.bare .forbidden)
  | .redirect status location => .answer (Response.redirect status location)
  | .proxy rule =>
    match rule.outbound g.hop e.url r with
    | .ok outbound => .send outbound
    | .error fault => .answer fault.response
  | .continue =>
    match r.target.withUrl? e.url with
    | some target => .stage { r with target := target } e.query
    | none => .answer (Response.bare .internalServerError)

/-- The response of a stage as a method wants it: for `HEAD` and a tunnel that opens, no body. -/
def stageResponse (stage : Stage) (r : Request) (query : Option Query) : Response :=
  let response := stage r query
  let opens := 200 ≤ response.status.code && response.status.code < 300
  if r.method = text "HEAD" ∨ (r.method = text "CONNECT" ∧ opens) then response.withoutBody
  else response

section

variable {m : Type → Type} [Monad m]

/-- Carry out what becomes of a request: the next stage is called, or the backend, or neither. -/
def carryOut (next : Request → Option Query → m Response)
    (backend : Transport → Request → m (Option Response)) : Disposal → m Response
  | .answer response => pure response
  | .stage request query => next request query
  | .send outbound => do
    match outbound.receive (← backend outbound.transport outbound.request) with
    | .ok response => return response
    | .error fault => return fault.response

/-- Respond to a request with a next stage and a backend that may have effects. -/
def respond (g : Gateway) (next : Request → Option Query → m Response)
    (backend : Transport → Request → m (Option Response)) (r : Request) : m Response := do
  let e := g.evaluate r
  let response ← carryOut next backend (g.dispose r e)
  return response.withContentType e.contentType

end

/-- The response to a request. -/
def handle (g : Gateway) (stage : Stage) (backend : Backend) (r : Request) : Response :=
  Id.run (g.respond (stageResponse stage) backend r)

end Gateway

/-- The stage of a gateway without files. -/
def notFoundStage : Stage := fun _ _ => Response.plain .notFound (text "Not Found")

end RuleGate
