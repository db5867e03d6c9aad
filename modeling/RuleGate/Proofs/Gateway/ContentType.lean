import RuleGate.Proofs.Evaluation.ContentType
import RuleGate.Proofs.Gateway.Contacts

/-! # The content type of a response

A response is made in one of nine ways, of which some give it a content type of their own. The
content type of the rules is put on afterwards, wherever the response came from, and only where
there is none; nothing else changes.
-/
namespace RuleGate

namespace Response

/-- The response is `own` except that a content type may stand in for a missing one. -/
structure Carries (seen own : Response) (contentType : Option Bytes) : Prop where
  status : seen.status = own.status
  body : seen.body = own.body
  values : seen.headers.getAll (text "content-type") =
    if own.headers.getAll (text "content-type") = [] then contentType.toList
    else own.headers.getAll (text "content-type")
  others : seen.headers.without (text "content-type") = own.headers.without (text "content-type")

theorem carries_withContentType (own : Response) (contentType : Option Bytes) :
    (own.withContentType contentType).Carries own contentType where
  status := withContentType_status own contentType
  body := withContentType_body own contentType
  values := by
    cases contentType with
    | none =>
      rw [Option.toList_none]
      split
      · assumption
      · rfl
    | some value => exact Headers.getAll_putNew ..
  others := by
    cases contentType with
    | none => rfl
    | some value => exact Headers.without_putNew ..

end Response

namespace Gateway

variable {σ : Type}

/-- The ways to respond to a request: the response before the content type of the rules is put on
it, and the world after it. -/
inductive Branch (g : Gateway) (next : Request → Option Query → StateM σ Response)
    (backend : Transport → Request → StateM σ (Option Response)) (r : Request) (world : σ) :
    Response → σ → Prop where
  | gone (h : (g.evaluate r).outcome = .gone) :
    Branch g next backend r world ⟨.gone, [], .empty⟩ world
  | forbidden (h : (g.evaluate r).outcome = .forbidden) :
    Branch g next backend r world ⟨.forbidden, [], .empty⟩ world
  | redirected {status : Status} {location : Text}
    (h : (g.evaluate r).outcome = .redirect status location)
    (hvalue : isFieldValue (Utf8.encode location) = true) :
    Branch g next backend r world
      ⟨status, [(text "location", Utf8.encode location)], .empty⟩ world
  | badLocation {status : Status} {location : Text}
    (h : (g.evaluate r).outcome = .redirect status location)
    (hvalue : isFieldValue (Utf8.encode location) = false) :
    Branch g next backend r world ⟨.internalServerError, [], .empty⟩ world
  | badTarget (h : (g.evaluate r).outcome = .continue)
    (htarget : r.target.withUrl? (g.evaluate r).url = none) :
    Branch g next backend r world ⟨.internalServerError, [], .empty⟩ world
  | staged {target : Target} (h : (g.evaluate r).outcome = .continue)
    (htarget : r.target.withUrl? (g.evaluate r).url = some target) :
    Branch g next backend r world
      ((next { r with target := target } (g.evaluate r).query).run world).1
      ((next { r with target := target } (g.evaluate r).query).run world).2
  | unsent {rule : Rule} {fault : ForwardFault} (h : (g.evaluate r).outcome = .proxy rule)
    (hsent : rule.outbound g.hop (g.evaluate r).url r = .error fault) :
    Branch g next backend r world
      (Response.plain .internalServerError (text "Invalid proxy target")) world
  | unanswered {rule : Rule} {o : Outbound} {after : σ}
    (h : (g.evaluate r).outcome = .proxy rule)
    (hsent : rule.outbound g.hop (g.evaluate r).url r = .ok o)
    (hanswer : (backend o.transport o.request).run world = (none, after)) :
    Branch g next backend r world
      (Response.plain .badGateway (text "Upstream request failed")) after
  | answered {rule : Rule} {o : Outbound} {answer : Response} {after : σ}
    (h : (g.evaluate r).outcome = .proxy rule)
    (hsent : rule.outbound g.hop (g.evaluate r).url r = .ok o)
    (hanswer : (backend o.transport o.request).run world = (some answer, after)) :
    Branch g next backend r world
      { answer with headers := answer.headers.put (text "via") o.via } after

section

variable {g : Gateway} {next : Request → Option Query → StateM σ Response}
  {backend : Transport → Request → StateM σ (Option Response)} {r : Request} {world after : σ}
  {own : Response}

theorem response_of_outbound_error {rule : Rule} {hop url : Text} {fault : ForwardFault}
    (h : rule.outbound hop url r = .error fault) :
    fault.response = Response.plain .internalServerError (text "Invalid proxy target") := by
  cases hd : Destination.ofUrl (rule.substitute url) with
  | error backendFault =>
    rw [Rule.outbound_of_no_backend hd] at h
    obtain rfl := Except.error.inj h
    rfl
  | ok d =>
    cases hvia : isFieldValue (Via.outbound hop r.headers) with
    | false =>
      rw [Rule.outbound_of_invalid_via hd hvia] at h
      obtain rfl := Except.error.inj h
      rfl
    | true =>
      rw [Rule.outbound_of_valid hd hvia] at h
      exact absurd h nofun

theorem exists_branch (g : Gateway) (next : Request → Option Query → StateM σ Response)
    (backend : Transport → Request → StateM σ (Option Response)) (r : Request) (world : σ) :
    ∃ own after, Branch g next backend r world own after := by
  cases h : (g.evaluate r).outcome with
  | gone => exact ⟨_, _, .gone h⟩
  | forbidden => exact ⟨_, _, .forbidden h⟩
  | redirect status location =>
    cases hvalue : isFieldValue (Utf8.encode location) with
    | true => exact ⟨_, _, .redirected h hvalue⟩
    | false => exact ⟨_, _, .badLocation h hvalue⟩
  | «continue» =>
    cases htarget : r.target.withUrl? (g.evaluate r).url with
    | none => exact ⟨_, _, .badTarget h htarget⟩
    | some target => exact ⟨_, _, .staged h htarget⟩
  | proxy rule =>
    cases hsent : rule.outbound g.hop (g.evaluate r).url r with
    | error fault => exact ⟨_, _, .unsent h hsent⟩
    | ok o =>
      cases hanswer : (backend o.transport o.request).run world with
      | mk answer after =>
        cases answer with
        | none => exact ⟨_, _, .unanswered h hsent hanswer⟩
        | some answer => exact ⟨_, _, .answered h hsent hanswer⟩

/-- Whichever way it is made, a response gets the content type of the rules in the end. -/
theorem run_respond_of_branch (h : Branch g next backend r world own after) :
    (g.respond next backend r).run world =
      (own.withContentType (g.evaluate r).contentType, after) := by
  rw [observe_run]
  cases h with
  | gone h => rw [observe_of_answer (dispose_of_gone h)]; rfl
  | forbidden h => rw [observe_of_answer (dispose_of_forbidden h)]; rfl
  | redirected h hvalue =>
    rw [observe_of_answer (dispose_of_redirect h), Response.redirect_of_valid hvalue]
  | badLocation h hvalue =>
    rw [observe_of_answer (dispose_of_redirect h), Response.redirect_of_invalid hvalue]
    rfl
  | badTarget h htarget =>
    have hdispose : g.dispose r (g.evaluate r) = .answer (Response.bare .internalServerError) := by
      rw [dispose_of_continue h, htarget]
    rw [observe_of_answer hdispose]
    rfl
  | @staged target h htarget =>
    have hdispose : g.dispose r (g.evaluate r) =
        .stage { r with target := target } (g.evaluate r).query := by
      rw [dispose_of_continue h, htarget]
    rw [observe_of_stage hdispose]
  | @unsent rule fault h hsent =>
    have hdispose : g.dispose r (g.evaluate r) = .answer fault.response := by
      rw [dispose_of_proxy h, hsent]
    rw [observe_of_answer hdispose, response_of_outbound_error hsent]
  | @unanswered rule o after h hsent hanswer =>
    have hdispose : g.dispose r (g.evaluate r) = .send o := by rw [dispose_of_proxy h, hsent]
    rw [observe_of_send hdispose, hanswer]
    rfl
  | @answered rule o answer after h hsent hanswer =>
    have hdispose : g.dispose r (g.evaluate r) = .send o := by rw [dispose_of_proxy h, hsent]
    rw [observe_of_send hdispose, hanswer]
    rfl

end

/-- The content type of an evaluation is that of the last rule to name one, if any rule does. The
response is in every case that of its branch, which keeps its own content type, and else has the
one of the evaluation, if there is one. -/
theorem respond_contentType (g : Gateway) (next : Request → Option Query → StateM σ Response)
    (backend : Transport → Request → StateM σ (Option Response)) (r : Request) (world : σ) :
    let run := (g.respond next backend r).run world
    (∀ ctx value, (g.rules.evaluate ctx).contentType = some value ↔
      ∃ i, g.rules.NamedAt ctx ctx.url i value ∧ g.rules.SilentAfter ctx ctx.url i) ∧
    (∀ ctx, (g.rules.evaluate ctx).contentType = none ↔ g.rules.Silent ctx ctx.url) ∧
    (∃ own after, Branch g next backend r world own after) ∧
    ∀ own after, Branch g next backend r world own after →
      run.1.Carries own (g.rules.evaluate (r.context g.encrypted)).contentType ∧
        run.2 = after := by
  refine ⟨fun ctx value => RuleSet.contentType_evaluate_eq_some_iff,
    fun ctx => RuleSet.contentType_evaluate_eq_none_iff, exists_branch g next backend r world,
    fun own after h => ?_⟩
  rw [run_respond_of_branch h]
  exact ⟨Response.carries_withContentType own _, rfl⟩

end Gateway

end RuleGate
