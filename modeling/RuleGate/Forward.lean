import RuleGate.Http.Message
import RuleGate.Rule
import RuleGate.Url
import RuleGate.Via

/-! # Forwarding to backends

The substitution of a proxy rule names a backend by a URL. What goes there is the request with one
Via field that ends in the hop of the gateway, in place of its own, and without its Host fields,
since the backend has a name of its own. What comes back has the same Via field.
-/
namespace RuleGate

/-- How a backend is talked to. -/
inductive Transport where
  | plain
  | tls
  deriving DecidableEq, Repr

def Transport.ofScheme : Scheme → Transport
  | .http => .plain
  | .https => .tls

/-- Why a URL names no backend. -/
inductive BackendFault where
  | notUrl (fault : UrlFault)
  | foreignScheme (scheme : Text)
  | missingHost
  | notTarget (fault : TargetFault)
  deriving DecidableEq

def BackendFault.message : BackendFault → Text
  | .notUrl fault => fault.message
  | .foreignScheme scheme => text "unsupported scheme \x60" ++ scheme ++ ['\x60']
  | .missingHost => text "missing host"
  | .notTarget fault => fault.message

/-- Where a request is sent. -/
structure Destination where
  transport : Transport
  target : Target
  deriving DecidableEq

/-- The backend that a URL names, whatever fragment it has. -/
def Destination.ofUrl (url : Text) : Except BackendFault Destination :=
  match Url.parse url with
  | .error fault => .error (.notUrl fault)
  | .ok (.foreign scheme) => .error (.foreignScheme scheme)
  | .ok (.web url) =>
    if url.host.isMissing then .error .missingHost
    else
      match Target.parse url.withoutFragment.toText with
      | .error fault => .error (.notTarget fault)
      | .ok target => .ok ⟨Transport.ofScheme url.scheme, target⟩

/-- Why a request has no response of a backend. To put the request together is no reason of its own:
its method, its target, its names and its values have been checked where they were read, and a
request that is served has fewer fields than a request can hold. -/
inductive ForwardFault where
  | invalidBackend (url : Text) (fault : BackendFault)
  | invalidVia
  | noResponse (url : Text)
  deriving DecidableEq

namespace ForwardFault

/-- A description; that of a missing response depends on the network and is left out. -/
def message? : ForwardFault → Option Text
  | .invalidBackend url fault =>
    some (text "invalid upstream URL \x60" ++ url ++ text "\x60: " ++ fault.message)
  | .invalidVia => some (text "invalid Via header value: failed to parse header value")
  | .noResponse _ => none

/-- A request that cannot even be made is a fault of the gateway. -/
def status : ForwardFault → Status
  | .noResponse _ => .badGateway
  | _ => .internalServerError

def response (f : ForwardFault) : Response :=
  match f with
  | .noResponse _ => Response.plain f.status (text "Upstream request failed")
  | _ => Response.plain f.status (text "Invalid proxy target")

end ForwardFault

/-- The headers that a backend gets. -/
def Headers.outbound (h : Headers) (via : Bytes) : Headers :=
  (h.without (text "host")).without (text "via") ++ [(text "via", via)]

/-- A request on its way to the backend of a URL. -/
structure Outbound where
  url : Text
  transport : Transport
  via : Bytes
  request : Request
  deriving DecidableEq

/-- A backend answers a request or does not. -/
abbrev Backend := Transport → Request → Option Response

/-- Make the request that a rule sends for a URL. -/
def Rule.outbound (r : Rule) (hop url : Text) (request : Request) :
    Except ForwardFault Outbound :=
  let place := r.substitute url
  match Destination.ofUrl place with
  | .error fault => .error (.invalidBackend place fault)
  | .ok d =>
    let via := Utf8.encode (Via.chain hop (Via.inbound request.headers))
    if isFieldValue via then
      .ok ⟨place, d.transport, via,
        { request with target := d.target, headers := request.headers.outbound via }⟩
    else .error .invalidVia

/-- The response to a request that has been sent, from the answer of the backend. -/
def Outbound.receive (o : Outbound) : Option Response → Except ForwardFault Response
  | none => .error (.noResponse o.url)
  | some response => .ok { response with headers := response.headers.put (text "via") o.via }

/-- Send a request and take the response of the backend. -/
def Outbound.send (o : Outbound) (backend : Backend) : Except ForwardFault Response :=
  o.receive (backend o.transport o.request)

/-- Forward a request by a rule. -/
def Rule.forward (r : Rule) (hop url : Text) (request : Request) (backend : Backend) :
    Except ForwardFault Response := do
  (← r.outbound hop url request).send backend

end RuleGate
