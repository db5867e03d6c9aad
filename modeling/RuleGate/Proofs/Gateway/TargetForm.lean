import RuleGate.Proofs.Gateway.Transparency
import RuleGate.Proofs.Http.Form
import RuleGate.Proofs.Pattern.Anchored

/-! # Rules and the form of a target

A client may ask for a path, or for the same path with a scheme and an authority in front. The rules
see the same URL in both cases, except where the query follows the authority at once: then the URL
has no slash in front, and a rule for all paths is got around. The authority also stands in for a
host that no header names.
-/
namespace RuleGate

/-- Two requests for the same path and query, the first in origin form and the second with a scheme
and an authority before `rest`. The fields that rules depend on are the same. -/
structure Request.DifferInForm (r s : Request) (rest : PathQuery) : Prop where
  origin : ∃ t, Target.parse ('/' :: t) = .ok r.target
  absolute : ∃ t scheme authority,
    Target.parse t = .ok s.target ∧ s.target = .absolute scheme authority rest
  path_eq : r.target.path = s.target.path
  query_eq : r.target.query? = s.target.query?
  host_eq : r.headers.get? (text "host") = s.headers.get? (text "host")
  proto_eq : r.headers.get? (text "x-forwarded-proto") = s.headers.get? (text "x-forwarded-proto")

namespace Request.DifferInForm

variable {r s : Request} {rest : PathQuery}

theorem exists_url_origin (h : r.DifferInForm s rest) : ∃ t, r.target.url = '/' :: t := by
  obtain ⟨t, ht⟩ := h.origin
  obtain ⟨p, hp, hslash⟩ := Target.exists_of_parse_slash ht
  obtain ⟨u, hu⟩ := List.head?_eq_some_iff.mp hslash
  refine ⟨u, ?_⟩
  rw [hp, Target.url_of_pathQuery? rfl, PathQuery.toText, hu]
  rfl

theorem url_eq (h : r.DifferInForm s rest) (hrest : rest.text.head? ≠ some '?') :
    r.target.url = s.target.url := by
  obtain ⟨t, ht⟩ := h.origin
  obtain ⟨p, hp, hslash⟩ := Target.exists_of_parse_slash ht
  obtain ⟨-, scheme, authority, -, hs⟩ := h.absolute
  have hpath := h.path_eq
  have hquery := h.query_eq
  rw [hp, hs] at hpath hquery ⊢
  change p.path = rest.path at hpath
  change p.query? = rest.query? at hquery
  have hmark : p.text.head? ≠ some '?' := by simp [hslash]
  calc p.toText = p.path ++ (p.query?.map ('?' :: ·)).getD [] := PathQuery.toText_eq hmark
    _ = rest.path ++ (rest.query?.map ('?' :: ·)).getD [] := by rw [hpath, hquery]
    _ = rest.toText := (PathQuery.toText_eq hrest).symm

theorem url_of_bare (h : r.DifferInForm s rest) {query : Text} (hrest : rest.text = '?' :: query) :
    r.target.url = '/' :: '?' :: query ∧ s.target.url = '?' :: query := by
  obtain ⟨t, ht⟩ := h.origin
  obtain ⟨p, hp, hslash⟩ := Target.exists_of_parse_slash ht
  obtain ⟨-, scheme, authority, -, hs⟩ := h.absolute
  have hpath := h.path_eq
  have hquery := h.query_eq
  rw [hp, hs] at hpath hquery ⊢
  obtain ⟨htext, hroot, hsome⟩ := PathQuery.toText_of_bare hrest
  change p.path = rest.path at hpath
  change p.query? = rest.query? at hquery
  have hmark : p.text.head? ≠ some '?' := by simp [hslash]
  refine ⟨?_, htext⟩
  calc p.toText = p.path ++ (p.query?.map ('?' :: ·)).getD [] := PathQuery.toText_eq hmark
    _ = '/' :: '?' :: query := by rw [hpath, hquery, hroot, hsome]; rfl

theorem header?_host (h : r.DifferInForm s rest) :
    r.header? (text "host") = s.header? (text "host") :=
  congrArg (Option.bind · fieldText?) h.host_eq

theorem scheme_eq (h : r.DifferInForm s rest) (encrypted : Bool) :
    (r.context encrypted).scheme = (s.context encrypted).scheme :=
  congrArg (fun value : Option Bytes => Scheme.detect encrypted (value.bind fieldText?)) h.proto_eq

theorem context_eq (h : r.DifferInForm s rest) (hrest : rest.text.head? ≠ some '?')
    (hhost : (r.header? (text "host")).isSome = true) (encrypted : Bool) :
    r.context encrypted = s.context encrypted := by
  obtain ⟨host, hr⟩ := Option.isSome_iff_exists.mp hhost
  have hs : s.header? (text "host") = some host := h.header?_host.symm.trans hr
  have hosts : r.host = s.host := by
    unfold Request.host
    rw [hr, hs]
    rfl
  unfold Request.context
  rw [h.url_eq hrest, hosts]
  exact congrArg (Context.mk _ _) (h.scheme_eq encrypted)

theorem host_ne (h : r.DifferInForm s rest) (hhost : r.header? (text "host") = none) :
    r.host ≠ s.host := by
  obtain ⟨t, ht⟩ := h.origin
  obtain ⟨p, hp, -⟩ := Target.exists_of_parse_slash ht
  obtain ⟨u, scheme, authority, hu, hs⟩ := h.absolute
  rw [hs] at hu
  unfold Request.host
  rw [hhost, ← h.header?_host, hhost, hp, hs]
  exact (Target.ne_nil_of_parse hu).symm

end Request.DifferInForm

namespace Gateway

def rootPattern : Pattern :=
  { source := text "^/", caseless := false, expr := .cat (.look .textStart) (.set [(47, 47)]),
    groups := 0 }

theorem isMatch_rootPattern_slash (t : Text) : rootPattern.isMatch ('/' :: t) = true := by
  have hsearch : rootPattern.program.search 0 ('/' :: t) = some [some 0, some 1] := by
    cases t with
    | nil => rfl
    | cons c t => exact Pattern.Program.run_of_found ..
  unfold Pattern.isMatch Pattern.find?
  rw [show rootPattern.groups = 0 from rfl, hsearch]
  rfl

theorem isMatch_rootPattern_question (t : Text) : rootPattern.isMatch ('?' :: t) = false := by
  have hsearch : rootPattern.program.search 0 ('?' :: t) = none :=
    Pattern.Program.run_of_anchored (p := rootPattern.program) rfl 0 t 1 (some '?') rfl _
  unfold Pattern.isMatch Pattern.find?
  rw [show rootPattern.groups = 0 from rfl, hsearch]
  rfl

def rootRule (directive : String) (action : Action) : Rule :=
  { directive := text directive, pattern := rootPattern, replacement := text "-", inverted := false,
    last := false, action, contentType := none, host := none }

variable {directive : String} {action : Action} {ctx : Context} {url t : Text}

theorem rootRule_not_fires (hurl : url = '?' :: t) (ctx : Context) :
    ¬ (rootRule directive action).Fires ctx url := by
  subst hurl
  exact fun h => h.2 (isMatch_rootPattern_question t)

theorem outcome_rootRule (hurl : ctx.url = '/' :: t) (directive : String) (action : Action)
    (haction : action ≠ .replace) :
    (RuleSet.evaluate [rootRule directive action] ctx).outcome =
      (rootRule directive action).outcome ctx ctx.url := by
  have hmatch : (rootRule directive action).isMatch ctx.url = true := by
    rw [hurl]
    exact isMatch_rootPattern_slash t
  have hdecides : (rootRule directive action).Decides ctx ctx.url := ⟨rfl, rfl, haction, hmatch⟩
  rw [RuleSet.evaluate, RuleSet.walk_cons, if_pos (.inl hdecides), if_pos hdecides]

def forbidRoot : Gateway := ofDirectives ["^/ - [F]"]

def redirectRoot : Gateway := ofDirectives ["^/ - [R]"]

theorem rules_forbidRoot : forbidRoot.rules = [rootRule "^/ - [F]" .forbidden] := rfl

theorem rules_redirectRoot :
    redirectRoot.rules = [rootRule "^/ - [R]" (.redirect .movedPermanently)] := rfl

variable {r s : Request} {rest : PathQuery}

theorem forbidRoot_of_slash (h : r.target.url = '/' :: t) :
    (forbidRoot.evaluate r).outcome = .forbidden := by
  unfold evaluate
  rw [rules_forbidRoot, outcome_rootRule h _ .forbidden nofun]
  rfl

theorem forbidRoot_of_question (h : r.target.url = '?' :: t) :
    (forbidRoot.evaluate r).outcome = .continue := by
  rw [evaluate_of_not_fires]
  rw [rules_forbidRoot]
  simpa using rootRule_not_fires h _

theorem host_eq_of_redirectRoot (hr : r.target.url = '/' :: t) (hs : s.target.url = '/' :: t)
    (hscheme :
      (r.context redirectRoot.encrypted).scheme = (s.context redirectRoot.encrypted).scheme)
    (h : redirectRoot.evaluate r = redirectRoot.evaluate s) : r.host = s.host := by
  have hout := congrArg Evaluation.outcome h
  unfold evaluate at hout
  rw [rules_redirectRoot, outcome_rootRule hr _ (.redirect .movedPermanently) nofun,
    outcome_rootRule hs _ (.redirect .movedPermanently) nofun] at hout
  have hlocation := (Outcome.redirect.inj hout).2
  rw [hscheme] at hlocation
  have hurl : (r.context redirectRoot.encrypted).url = (s.context redirectRoot.encrypted).url :=
    hr.trans hs.symm
  rw [hurl] at hlocation
  simpa [Request.context] using hlocation

/-- Rules see a request alike in both forms unless a query follows the authority at once. All of
them are then alike, exactly if there is besides a header for the host that can be read as text.
Where a query follows the authority at once, a rule for all paths lets the absolute form through. -/
theorem evaluate_eq_iff_of_form (h : r.DifferInForm s rest) :
    (r.target.url = s.target.url ↔ rest.text.head? ≠ some '?') ∧
      ((∀ g : Gateway, g.evaluate r = g.evaluate s) ↔
        rest.text.head? ≠ some '?' ∧ (r.header? (text "host")).isSome = true) ∧
      (rest.text.head? = some '?' →
        (forbidRoot.evaluate r).outcome = .forbidden ∧
          (forbidRoot.evaluate s).outcome = .continue) := by
  have hbare (hmark : rest.text.head? = some '?') :
      r.target.url ≠ s.target.url ∧ (forbidRoot.evaluate r).outcome = .forbidden ∧
        (forbidRoot.evaluate s).outcome = .continue := by
    obtain ⟨query, hquery⟩ := List.head?_eq_some_iff.mp hmark
    obtain ⟨hr, hs⟩ := h.url_of_bare hquery
    exact ⟨by simp [hr, hs], forbidRoot_of_slash hr, forbidRoot_of_question hs⟩
  refine ⟨⟨fun hurl hmark => (hbare hmark).1 hurl, h.url_eq⟩, ⟨fun hall => ?_, ?_⟩,
    fun hmark => (hbare hmark).2⟩
  · have hmark : rest.text.head? ≠ some '?' := by
      intro hmark
      obtain ⟨-, hr, hs⟩ := hbare hmark
      rw [hall forbidRoot, hs] at hr
      exact absurd hr nofun
    refine ⟨hmark, ?_⟩
    by_contra hhost
    obtain ⟨t, ht⟩ := h.exists_url_origin
    refine h.host_ne (by simpa using hhost) ?_
    exact host_eq_of_redirectRoot ht ((h.url_eq hmark).symm.trans ht) (h.scheme_eq _)
      (hall redirectRoot)
  · rintro ⟨hmark, hhost⟩ g
    unfold evaluate
    rw [h.context_eq hmark hhost]

def originSearch : Request :=
  ⟨text "GET", .relative ⟨text "/?x=1"⟩, [(text "host", Utf8.encode (text "h"))], Body.empty⟩

/-- The same request in absolute form, written without the slash. -/
def absoluteSearch : Request :=
  { originSearch with target := .absolute (text "http") (text "h") ⟨text "?x=1"⟩ }

theorem differInForm_search : originSearch.DifferInForm absoluteSearch ⟨text "?x=1"⟩ where
  origin := ⟨text "?x=1", rfl⟩
  absolute := ⟨text "http://h?x=1", text "http", text "h", rfl, rfl⟩
  path_eq := rfl
  query_eq := rfl
  host_eq := rfl
  proto_eq := rfl

/-- The query follows the authority at once, so the rule for all paths sees no path in it. -/
theorem evaluate_eq_iff_of_form_search :
    originSearch.DifferInForm absoluteSearch ⟨text "?x=1"⟩ ∧
      ¬ (∀ g : Gateway, g.evaluate originSearch = g.evaluate absoluteSearch) ∧
      (forbidRoot.evaluate originSearch).outcome = .forbidden ∧
      (forbidRoot.evaluate absoluteSearch).outcome = .continue := by
  obtain ⟨-, hall, hbare⟩ := evaluate_eq_iff_of_form differInForm_search
  exact ⟨differInForm_search, fun h => (hall.mp h).1 rfl, hbare rfl⟩

/-- A readable header for the host does not make the two forms alike. -/
theorem evaluate_ne_of_form :
    ¬ ∀ (g : Gateway) (r s : Request) (rest : PathQuery), r.DifferInForm s rest →
      (r.header? (text "host")).isSome = true → g.evaluate r = g.evaluate s := by
  intro h
  have hterminal := congrArg (fun e => e.outcome.isTerminal)
    (h forbidRoot originSearch absoluteSearch _ differInForm_search (by decide +kernel))
  exact absurd hterminal (by decide +kernel)

end Gateway

end RuleGate
