import RuleGate.Gateway
import RuleGate.Proofs.Http.Target
import RuleGate.Proofs.Query.Mapping

/-! # The query mapping and the query of the stage

The mapping that a stage is given comes from the final URL as it is, while the target that it sees
has no fragment. The two agree unless the rules have put both a `#` and a question mark into the
URL: then the mapping reads the fragment as if it were part of the query.
-/
namespace RuleGate

namespace Query

/-- A fragment changes the mapping of a URL wherever there is a question mark before or in it. -/
theorem ofUrl?_eq_takeWhile_iff (url : Text) :
    ofUrl? url = ofUrl? (url.takeWhile (· != '#')) ↔ '#' ∉ url ∨ '?' ∉ url := by
  by_cases hhash : '#' ∈ url
  · obtain ⟨before, fragment, rfl, hbefore⟩ := List.eq_append_cons_of_mem hhash
    rw [Text.takeWhile_ne_append hbefore, List.takeWhile_cons_of_neg (by decide), List.append_nil]
    unfold ofUrl?
    by_cases hquery : '?' ∈ before
    · obtain ⟨path, query, rfl, hpath⟩ := List.eq_append_cons_of_mem hquery
      rw [List.append_assoc, List.cons_append, Text.cut_append_cons hpath,
        Text.cut_append_cons hpath]
      simpa using parse_append_hash_ne query fragment
    · rw [Text.cut_of_not_mem hquery]
      by_cases hmark : '?' ∈ fragment
      · obtain ⟨path, query, rfl, hpath⟩ := List.eq_append_cons_of_mem hmark
        have hpath' : '?' ∉ before ++ '#' :: path := by simp [hquery, hpath]
        rw [← List.cons_append, ← List.append_assoc, Text.cut_append_cons hpath']
        simp
      · have hurl : '?' ∉ before ++ '#' :: fragment := by simp [hquery, hmark]
        simp [Text.cut_of_not_mem hurl, hquery, hmark]
  · have hself : url.takeWhile (· != '#') = url := by
      simpa using Text.takeWhile_ne_append hhash []
    rw [hself]
    simp [hhash]

end Query

def Request.get (path : String) : Request :=
  ⟨text "GET", .relative ⟨text path⟩, [], Body.empty⟩

namespace Gateway

def ofDirectives (directives : List String) : Gateway :=
  ⟨(RuleSet.compile (directives.map text)).toOption.getD [], text "1.1 gw1", false⟩

variable {g : Gateway} {r seen : Request} {e : Evaluation} {query : Option Query}

theorem eq_of_dispose_stage (h : g.dispose r e = .stage seen query) :
    r.target.withUrl? e.url = some seen.target ∧ query = e.query := by
  unfold dispose at h
  split at h
  · exact absurd h (by simp)
  · exact absurd h (by simp)
  · exact absurd h (by simp)
  · split at h <;> exact absurd h (by simp)
  · split at h
    · rename_i target htarget
      obtain ⟨rfl, rfl⟩ : { r with target := target } = seen ∧ e.query = query := by simpa using h
      exact ⟨htarget, rfl⟩
    · exact absurd h (by simp)

/-- The mapping that a stage is given is that of the query it sees exactly when the URL is still
that of the request, or has no `#`, or has no question mark. -/
theorem stage_query_iff (h : g.dispose r (g.evaluate r) = .stage seen query) :
    query = seen.target.query?.map Query.parse ↔
      (g.evaluate r).url = r.target.url ∨ '#' ∉ (g.evaluate r).url ∨
        '?' ∉ (g.evaluate r).url := by
  obtain ⟨htarget, rfl⟩ := eq_of_dispose_stage h
  generalize g.evaluate r = e at htarget
  by_cases hown : e.url = r.target.url
  · rw [hown] at htarget
    rw [Target.eq_of_withUrl?_url htarget, ← Target.cut_url, Evaluation.query, Query.ofUrl?, hown]
    simp
  · have hquery : seen.target.query?.map Query.parse =
        Query.ofUrl? ((Target.rooted e.url).takeWhile (· != '#')) := by
      rw [Target.query?, Target.pathQuery?_of_withUrl? htarget hown]
      rfl
    have hmapping : e.query = Query.ofUrl? (Target.rooted e.url) := by
      rw [Evaluation.query, Query.ofUrl?, Query.ofUrl?, Target.cut_rooted]
    rw [hquery, hmapping, ← Target.mem_rooted (by decide : '#' ≠ '/'),
      ← Target.mem_rooted (by decide : '?' ≠ '/')]
    simpa [hown] using Query.ofUrl?_eq_takeWhile_iff (Target.rooted e.url)

/-- A rule that puts the captured text into the query: the stage sees the query of its mapping. -/
theorem stage_query_iff_search :
    (ofDirectives ["^/s/([a-z]+)$ /find?q=$1"]).dispose (Request.get "/s/x")
        ((ofDirectives ["^/s/([a-z]+)$ /find?q=$1"]).evaluate (Request.get "/s/x")) =
      .stage (Request.get "/find?q=x") (some ⟨[(text "q", [text "x"])]⟩) ∧
    (some ⟨[(text "q", [text "x"])]⟩ = (Request.get "/find?q=x").target.query?.map Query.parse ↔
      ((ofDirectives ["^/s/([a-z]+)$ /find?q=$1"]).evaluate (Request.get "/s/x")).url =
          (Request.get "/s/x").target.url ∨
        '#' ∉ ((ofDirectives ["^/s/([a-z]+)$ /find?q=$1"]).evaluate (Request.get "/s/x")).url ∨
        '?' ∉ ((ofDirectives ["^/s/([a-z]+)$ /find?q=$1"]).evaluate (Request.get "/s/x")).url) := by
  have hstage : (ofDirectives ["^/s/([a-z]+)$ /find?q=$1"]).dispose (Request.get "/s/x")
      ((ofDirectives ["^/s/([a-z]+)$ /find?q=$1"]).evaluate (Request.get "/s/x")) =
        .stage (Request.get "/find?q=x") (some ⟨[(text "q", [text "x"])]⟩) := by decide +kernel
  exact ⟨hstage, stage_query_iff hstage⟩

/-- A fragment after a query ends up in a value that the stage does not see. -/
theorem stage_query_ne_fragment :
    ¬ ∀ (g : Gateway) (r seen : Request) (query : Option Query),
      g.dispose r (g.evaluate r) = .stage seen query →
        query = seen.target.query?.map Query.parse := by
  intro h
  have hstage : (ofDirectives ["^/x$ /a?k=v#f"]).dispose (Request.get "/x")
      ((ofDirectives ["^/x$ /a?k=v#f"]).evaluate (Request.get "/x")) =
        .stage (Request.get "/a?k=v") (some ⟨[(text "k", [text "v#f"])]⟩) := by decide +kernel
  exact absurd (h _ _ _ _ hstage) (by decide)

end Gateway

end RuleGate
