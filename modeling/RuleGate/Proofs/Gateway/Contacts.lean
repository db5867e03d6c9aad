import RuleGate.Proofs.Forward.Outbound
import RuleGate.Proofs.Gateway.Transparency

/-! # What a gateway does for a request

While it responds to a request, a gateway may call the next stage and may send requests to
backends. A run is watched by writing these contacts down beside the world in which stage and
backend act, whatever they do there. For each outcome of the evaluation the contacts are then a
fixed list of at most one entry, and the response is the one that the outcome asks for.
-/
namespace RuleGate

inductive Contact where
  | stage (request : Request) (query : Option Query)
  | backend (transport : Transport) (request : Request)
  deriving DecidableEq

/-- A run to its end: the response, the contacts made for it in order, and the world after it. -/
structure Observation (σ : Type) where
  response : Response
  contacts : List Contact
  world : σ

namespace Response

variable {r : Response} {contentType : Option Bytes} {status : Status} {location : Text}

@[simp]
theorem withContentType_status (r : Response) (contentType : Option Bytes) :
    (r.withContentType contentType).status = r.status := by
  cases contentType <;> rfl

@[simp]
theorem withContentType_body (r : Response) (contentType : Option Bytes) :
    (r.withContentType contentType).body = r.body := by
  cases contentType <;> rfl

theorem withContentType_location (r : Response) (contentType : Option Bytes) :
    (r.withContentType contentType).headers.getAll (text "location") =
      r.headers.getAll (text "location") := by
  cases contentType with
  | none => rfl
  | some value => exact Headers.getAll_putNew_of_ne (by decide)

theorem redirect_of_valid (h : isFieldValue (Utf8.encode location) = true) :
    redirect status location =
      ⟨status, [(text "location", Utf8.encode location)], Body.empty⟩ := if_pos h

theorem redirect_of_invalid (h : isFieldValue (Utf8.encode location) = false) :
    redirect status location = bare .internalServerError := if_neg (by simp [h])

end Response

def Outbound.settle (o : Outbound) (answer : Option Response) : Response :=
  match o.receive answer with
  | .ok response => response
  | .error fault => fault.response

namespace Gateway

theorem carryOut_send {m : Type → Type} [Monad m] (next : Request → Option Query → m Response)
    (backend : Transport → Request → m (Option Response)) (o : Outbound) :
    carryOut next backend (.send o) =
      backend o.transport o.request >>= fun answer => pure (o.settle answer) := by
  refine congrArg (backend o.transport o.request >>= ·) (funext fun answer => ?_)
  cases answer <;> rfl

section

variable {g : Gateway} {r : Request} {e : Evaluation} {rule : Rule}

theorem dispose_of_continue (h : e.outcome = .continue) :
    g.dispose r e =
      match r.target.withUrl? e.url with
      | some target => .stage { r with target := target } e.query
      | none => .answer (Response.bare .internalServerError) := by
  unfold dispose
  generalize e.outcome = outcome at h
  subst h
  rfl

theorem dispose_of_proxy (h : e.outcome = .proxy rule) :
    g.dispose r e =
      match rule.outbound g.hop e.url r with
      | .ok outbound => .send outbound
      | .error fault => .answer fault.response := by
  unfold dispose
  generalize e.outcome = outcome at h
  subst h
  rfl

/-- Where there is no backend to send to, or no Via field, the gateway answers with a fault of its
own. -/
theorem dispose_of_invalid_proxy (h : e.outcome = .proxy rule)
    (hinvalid : (∃ fault, Destination.ofUrl (rule.substitute e.url) = .error fault) ∨
      isFieldValue (Via.outbound g.hop r.headers) = false) :
    ∃ fault : ForwardFault, fault.response.status = .internalServerError ∧
      g.dispose r e = .answer fault.response := by
  rw [dispose_of_proxy h]
  cases hd : Destination.ofUrl (rule.substitute e.url) with
  | error fault =>
    rw [Rule.outbound_of_no_backend hd]
    exact ⟨_, rfl, rfl⟩
  | ok d =>
    have hvia : isFieldValue (Via.outbound g.hop r.headers) = false := by simpa [hd] using hinvalid
    rw [Rule.outbound_of_invalid_via hd hvia]
    exact ⟨_, rfl, rfl⟩

theorem dispose_of_gone (h : e.outcome = .gone) :
    g.dispose r e = .answer (Response.bare .gone) := by
  rw [dispose, h]

theorem dispose_of_forbidden (h : e.outcome = .forbidden) :
    g.dispose r e = .answer (Response.bare .forbidden) := by
  rw [dispose, h]

theorem dispose_of_redirect {status : Status} {location : Text}
    (h : e.outcome = .redirect status location) :
    g.dispose r e = .answer (Response.redirect status location) := by
  rw [dispose, h]

end

variable {σ α : Type}

def watch (contact : Contact) (act : StateM σ α) : StateM (List Contact × σ) α := fun before =>
  let (answer, world) := act.run before.2
  (answer, before.1 ++ [contact], world)

/-- Respond to a request and write down the contacts that this takes. -/
def observe (g : Gateway) (next : Request → Option Query → StateM σ Response)
    (backend : Transport → Request → StateM σ (Option Response)) (r : Request) (world : σ) :
    Observation σ :=
  let (response, contacts, world) :=
    (g.respond (fun request query => watch (.stage request query) (next request query))
      (fun transport request => watch (.backend transport request) (backend transport request))
      r).run ([], world)
  ⟨response, contacts, world⟩

section

variable {g : Gateway} {next : Request → Option Query → StateM σ Response}
  {backend : Transport → Request → StateM σ (Option Response)} {r : Request} {world : σ}

theorem observe_of_answer {response : Response}
    (h : g.dispose r (g.evaluate r) = .answer response) :
    g.observe next backend r world =
      ⟨response.withContentType (g.evaluate r).contentType, [], world⟩ := by
  unfold observe
  rw [respond_eq, h]
  rfl

theorem observe_of_stage {request : Request} {query : Option Query}
    (h : g.dispose r (g.evaluate r) = .stage request query) :
    g.observe next backend r world =
      ⟨((next request query).run world).1.withContentType (g.evaluate r).contentType,
        [.stage request query], ((next request query).run world).2⟩ := by
  unfold observe
  rw [respond_eq, h]
  rfl

theorem observe_of_send {outbound : Outbound}
    (h : g.dispose r (g.evaluate r) = .send outbound) :
    let answer := (backend outbound.transport outbound.request).run world
    g.observe next backend r world =
      ⟨(outbound.settle answer.1).withContentType (g.evaluate r).contentType,
        [.backend outbound.transport outbound.request], answer.2⟩ := by
  unfold observe
  rw [respond_eq, h, carryOut_send]
  rfl

/-- Watching a run changes nothing in it. -/
theorem observe_run (g : Gateway) (next : Request → Option Query → StateM σ Response)
    (backend : Transport → Request → StateM σ (Option Response)) (r : Request) (world : σ) :
    (g.respond next backend r).run world =
      ((g.observe next backend r world).response, (g.observe next backend r world).world) := by
  rw [respond_eq]
  cases h : g.dispose r (g.evaluate r) with
  | answer response =>
    rw [observe_of_answer h]
    rfl
  | stage request query =>
    rw [observe_of_stage h]
    rfl
  | send outbound =>
    rw [observe_of_send h, carryOut_send]
    rfl

end

/-- A request is disposed of once, as its evaluation says. It is handed to the next stage alone,
when the target takes the final URL; or sent to one backend alone, when the rule names one and the
Via field can be written; or answered without either. -/
theorem observe_evaluation (g : Gateway) (next : Request → Option Query → StateM σ Response)
    (backend : Transport → Request → StateM σ (Option Response)) (r : Request) (world : σ) :
    let e := g.evaluate r
    let seen := g.observe next backend r world
    let via := Via.outbound g.hop r.headers
    (g.respond next backend r).run world = (seen.response, seen.world) ∧
    (e.outcome = .continue →
      (∀ target, r.target.withUrl? e.url = some target →
        seen.contacts = [.stage { r with target := target } e.query]) ∧
      (r.target.withUrl? e.url = none →
        seen.contacts = [] ∧ seen.response.status = .internalServerError ∧
          seen.response.body = .empty)) ∧
    (∀ rule, e.outcome = .proxy rule →
      (∀ d, Destination.ofUrl (rule.substitute e.url) = .ok d → isFieldValue via = true →
        seen.contacts = [.backend d.transport
          { r with target := d.target, headers := r.headers.outbound via }]) ∧
      ((∃ fault, Destination.ofUrl (rule.substitute e.url) = .error fault) ∨
          isFieldValue via = false →
        seen.contacts = [] ∧ seen.response.status = .internalServerError)) ∧
    (e.outcome = .gone →
      seen.contacts = [] ∧ seen.response.status = .gone ∧ seen.response.body = .empty) ∧
    (e.outcome = .forbidden →
      seen.contacts = [] ∧ seen.response.status = .forbidden ∧ seen.response.body = .empty) ∧
    (∀ status location, e.outcome = .redirect status location →
      seen.contacts = [] ∧
      (isFieldValue (Utf8.encode location) = true →
        seen.response.status = status ∧
          seen.response.headers.getAll (text "location") = [Utf8.encode location]) ∧
      (isFieldValue (Utf8.encode location) = false →
        seen.response.status = .internalServerError ∧
          seen.response.headers.getAll (text "location") = [])) := by
  intro e seen via
  refine ⟨observe_run g next backend r world,
    fun hout => ⟨fun target htarget => ?_, fun hnone => ?_⟩,
    fun rule hout => ⟨fun d hd hvia => ?_, ?_⟩, fun hout => ?_, fun hout => ?_,
    fun status location hout => ?_⟩
  · have hdispose : g.dispose r e = .stage { r with target := target } e.query := by
      rw [dispose_of_continue hout, htarget]
    exact congrArg Observation.contacts (observe_of_stage hdispose)
  · have hdispose : g.dispose r e = .answer (Response.bare .internalServerError) := by
      rw [dispose_of_continue hout, hnone]
    rw [show seen = _ from observe_of_answer hdispose]
    simp [Response.bare]
  · have hdispose := dispose_of_proxy (g := g) (r := r) hout
    rw [Rule.outbound_of_valid hd hvia] at hdispose
    exact congrArg Observation.contacts (observe_of_send hdispose)
  · intro hinvalid
    obtain ⟨fault, hstatus, hdispose⟩ := dispose_of_invalid_proxy (g := g) hout hinvalid
    rw [show seen = _ from observe_of_answer hdispose]
    exact ⟨rfl, by rw [Response.withContentType_status, hstatus]⟩
  · rw [show seen = _ from observe_of_answer (dispose_of_gone hout)]
    simp [Response.bare]
  · rw [show seen = _ from observe_of_answer (dispose_of_forbidden hout)]
    simp [Response.bare]
  · rw [show seen = _ from observe_of_answer (dispose_of_redirect hout)]
    refine ⟨rfl, fun hvalid => ?_, fun hinvalid => ?_⟩
    · rw [Response.redirect_of_valid hvalid]
      exact ⟨Response.withContentType_status .., (Response.withContentType_location ..).trans
        (Headers.getAll_singleton ..)⟩
    · rw [Response.redirect_of_invalid hinvalid]
      exact ⟨Response.withContentType_status .., Response.withContentType_location ..⟩

end Gateway

end RuleGate
