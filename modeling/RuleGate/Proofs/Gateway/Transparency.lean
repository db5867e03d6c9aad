import RuleGate.Proofs.Evaluation.Walk
import RuleGate.Proofs.Gateway.QueryMapping

/-! # Requests that no rule fires on

Such a request reaches the next stage as it came, in one call, and the response of the stage is
the response to it. Only a target that is an authority alone is in the way of this: the slash by
which rules see it cannot be put back.
-/
namespace RuleGate

namespace RuleSet

variable {rules : RuleSet} {ctx : Context} {url : Text} {contentType : Option Bytes}

/-- A walk on which no rule fires leaves everything as it is. -/
theorem walk_of_not_fires (h : ∀ rule ∈ rules, ¬ rule.Fires ctx url) :
    walk ctx rules url contentType = ⟨.continue, url, contentType⟩ := by
  induction rules with
  | nil => rfl
  | cons r rules ih =>
    have hr : ¬ r.Fires ctx url := h r List.mem_cons_self
    have hhalt : ¬ r.Halts ctx url := fun hhalt => hr hhalt.fires
    rw [walk_cons, if_neg hhalt, Rule.urlAfter_of_not_fires hr,
      Rule.contentTypeAfter_of_not_fires hr]
    exact ih fun rule hrule => h rule (List.mem_cons_of_mem r hrule)

end RuleSet

namespace Gateway

variable {m : Type → Type} [Monad m] {g : Gateway} {r : Request}

theorem respond_eq (g : Gateway) (next : Request → Option Query → m Response)
    (backend : Transport → Request → m (Option Response)) (r : Request) :
    g.respond next backend r =
      carryOut next backend (g.dispose r (g.evaluate r)) >>= fun response =>
        pure (response.withContentType (g.evaluate r).contentType) := rfl

theorem evaluate_of_not_fires
    (h : ∀ rule ∈ g.rules, ¬ rule.Fires (r.context g.encrypted) r.target.url) :
    g.evaluate r = ⟨.continue, r.target.url, none⟩ :=
  RuleSet.walk_of_not_fires h

/-- The gateway is transparent where no rule fires: to have the request responded to is to call
the next stage with it, whatever else the stage does. With an authority for a target, the request
is refused instead and no stage is called. -/
theorem respond_of_not_fires [LawfulMonad m] (next : Request → Option Query → m Response)
    (backend : Transport → Request → m (Option Response))
    (h : ∀ rule ∈ g.rules, ¬ rule.Fires (r.context g.encrypted) r.target.url) :
    g.respond next backend r =
      if r.target.pathQuery?.isSome then next r (r.target.query?.map Query.parse)
      else pure (Response.bare .internalServerError) := by
  rw [respond_eq, evaluate_of_not_fires h]
  by_cases hpath : r.target.pathQuery?.isSome = true
  · have hdispose : g.dispose r ⟨.continue, r.target.url, none⟩ =
        .stage r (r.target.query?.map Query.parse) := by
      rw [← Target.cut_url]
      simp [dispose, Target.withUrl?_url hpath, Evaluation.query, Query.ofUrl?]
    rw [hdispose, if_pos hpath]
    simp [carryOut, Response.withContentType]
  · have hnone : r.target.pathQuery? = none := by simpa using hpath
    have hdispose : g.dispose r ⟨.continue, r.target.url, none⟩ =
        .answer (Response.bare .internalServerError) := by
      simp [dispose, Target.withUrl?_of_no_path hnone]
    rw [hdispose, if_neg hpath]
    simp [carryOut, Response.withContentType]

def countingStage (_ : Request) (_ : Option Query) : StateM Nat Response := do
  modify (· + 1)
  return Response.bare .ok

/-- A rule for another path leaves a request to the stage, which is called once. -/
theorem respond_of_not_fires_once :
    (∀ rule ∈ (ofDirectives ["^/x$ /y [G]"]).rules,
      ¬ rule.Fires ((Request.get "/z?a").context false) (Request.get "/z?a").target.url) ∧
    ((ofDirectives ["^/x$ /y [G]"]).respond countingStage (fun _ _ => return none)
      (Request.get "/z?a")).run 0 = (Response.bare .ok, 1) := by
  have hfires : ∀ rule ∈ (ofDirectives ["^/x$ /y [G]"]).rules,
      ¬ rule.Fires ((Request.get "/z?a").context false) (Request.get "/z?a").target.url := by
    decide +kernel
  exact ⟨hfires, by rw [respond_of_not_fires countingStage _ hfires]; rfl⟩

/-- Without any rules, a request for a tunnel to an authority does not get to the stage. -/
theorem respond_authority_ne_stage :
    ¬ ∀ (g : Gateway) (next : Request → Option Query → StateM Nat Response)
      (backend : Transport → Request → StateM Nat (Option Response)) (r : Request),
      (∀ rule ∈ g.rules, ¬ rule.Fires (r.context g.encrypted) r.target.url) →
        g.respond next backend r = next r (r.target.query?.map Query.parse) := by
  intro h
  have hcalls := congrArg (fun run => (StateT.run run 0).2)
    (h (ofDirectives []) countingStage (fun _ _ => return none)
      ⟨text "CONNECT", .authority (text "h.example:443"), [], Body.empty⟩ (by decide +kernel))
  exact absurd hcalls (by decide)

end Gateway

end RuleGate
