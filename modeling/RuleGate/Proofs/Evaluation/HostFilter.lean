import Mathlib.Data.List.Forall2
import RuleGate.Proofs.Evaluation.Walk
import RuleGate.Proofs.Rule.Directive

/-! # Rules for other hosts

A rule whose filter refuses the host of a request leaves no mark on the evaluation. The walk is
therefore that over the rules which accept the host, and sets that agree on these rules evaluate
alike, wherever else they differ.
-/
namespace RuleGate

namespace Rule

/-- The rules are the same, or both are for other hosts. -/
def AlikeFor (host : Text) (r s : Rule) : Prop :=
  s = r ∨ (r.acceptsHost host = false ∧ s.acceptsHost host = false)

variable {r : Rule} {ctx : Context} {url : Text}

theorem not_fires_of_refused (h : r.acceptsHost ctx.host = false) : ¬ r.Fires ctx url := by
  rintro ⟨haccepts, -⟩
  rw [h] at haccepts
  exact absurd haccepts (by decide)

end Rule

namespace RuleSet

def forHost (host : Text) (rules : RuleSet) : RuleSet := rules.filter fun r => r.acceptsHost host

variable {rules others : RuleSet} {r : Rule} {ctx : Context} {host : Text}

theorem forHost_cons_of_refused (h : r.acceptsHost host = false) :
    forHost host (r :: rules) = forHost host rules :=
  List.filter_cons_of_neg (by simp [h])

theorem forHost_cons_of_accepted (h : r.acceptsHost host = true) :
    forHost host (r :: rules) = r :: forHost host rules :=
  List.filter_cons_of_pos h

theorem walk_cons_of_refused (h : r.acceptsHost ctx.host = false) (url : Text)
    (contentType : Option Bytes) :
    walk ctx (r :: rules) url contentType = walk ctx rules url contentType := by
  have hfires : ¬ r.Fires ctx url := Rule.not_fires_of_refused h
  have hhalt : ¬ r.Halts ctx url := fun hhalt => hfires hhalt.fires
  rw [walk_cons, if_neg hhalt, Rule.urlAfter_of_not_fires hfires,
    Rule.contentTypeAfter_of_not_fires hfires]

theorem walk_forHost (rules : RuleSet) (ctx : Context) (url : Text) (contentType : Option Bytes) :
    walk ctx (forHost ctx.host rules) url contentType = walk ctx rules url contentType := by
  induction rules generalizing url contentType with
  | nil => rfl
  | cons r rules ih =>
    cases h : r.acceptsHost ctx.host with
    | false => rw [forHost_cons_of_refused h, walk_cons_of_refused h, ih]
    | true =>
      rw [forHost_cons_of_accepted h, walk_cons, walk_cons]
      by_cases hhalt : r.Halts ctx url
      · rw [if_pos hhalt, if_pos hhalt]
      · rw [if_neg hhalt, if_neg hhalt, ih]

theorem forHost_eq_of_alike (h : List.Forall₂ (Rule.AlikeFor host) rules others) :
    forHost host others = forHost host rules := by
  induction h with
  | nil => rfl
  | @cons r s rules others hrs _ ih =>
    rcases hrs with rfl | ⟨hr, hs⟩
    · cases hr : s.acceptsHost host with
      | false => rw [forHost_cons_of_refused hr, forHost_cons_of_refused hr, ih]
      | true => rw [forHost_cons_of_accepted hr, forHost_cons_of_accepted hr, ih]
    · rw [forHost_cons_of_refused hr, forHost_cons_of_refused hs, ih]

/-- Rules for other hosts may be taken out of a set, or others for other hosts put in their places:
the evaluation stays the same, and with it the query mapping. -/
theorem evaluate_of_host_refused (rules : RuleSet) (ctx : Context) :
    let e := rules.evaluate ctx
    ((forHost ctx.host rules).evaluate ctx = e ∧
        ((forHost ctx.host rules).evaluate ctx).query = e.query) ∧
      ∀ others : RuleSet, List.Forall₂ (Rule.AlikeFor ctx.host) rules others →
        others.evaluate ctx = e ∧ (others.evaluate ctx).query = e.query := by
  intro e
  have hfilter (rules : RuleSet) : (forHost ctx.host rules).evaluate ctx = rules.evaluate ctx :=
    walk_forHost rules ctx ctx.url none
  refine ⟨⟨hfilter rules, congrArg Evaluation.query (hfilter rules)⟩, fun others hothers => ?_⟩
  have heq : others.evaluate ctx = e := by
    rw [← hfilter others, forHost_eq_of_alike hothers, hfilter rules]
  exact ⟨heq, congrArg Evaluation.query heq⟩

/-- A rule that would forbid the request on another host, and an inverted last one in its place: the
rule after them rewrites the URL as if it stood alone. -/
theorem evaluate_of_host_refused_swap :
    let refused := Rule.ofWellFormed "^/ - [F,T=a/b,H=^x$]" (by decide +kernel)
    let swapped := Rule.ofWellFormed "!^/q /z [L,H=^y$]" (by decide +kernel)
    let rewrite := Rule.ofWellFormed "^/a$ /b?k [T=c/d]" (by decide +kernel)
    let ctx : Context := ⟨text "/a", text "h", .http⟩
    List.Forall₂ (Rule.AlikeFor ctx.host) [refused, rewrite] [swapped, rewrite] ∧
      evaluate [swapped, rewrite] ctx = evaluate [refused, rewrite] ctx ∧
      (evaluate [refused, rewrite] ctx).url = text "/b?k" := by
  intro refused swapped rewrite ctx
  have halike : List.Forall₂ (Rule.AlikeFor ctx.host) [refused, rewrite] [swapped, rewrite] :=
    .cons (.inr ⟨by decide +kernel, by decide +kernel⟩) (.cons (.inl rfl) .nil)
  exact ⟨halike, ((evaluate_of_host_refused [refused, rewrite] ctx).2 _ halike).1,
    by decide +kernel⟩

end RuleSet

end RuleGate
