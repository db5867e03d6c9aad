import Mathlib.Data.List.Basic
import RuleGate.Proofs.Evaluation.Decision
import RuleGate.Proofs.Rule.Directive
import RuleGate.Proofs.Rule.Substitution

/-! # Where a redirect leads

The location of a redirect is the host of the request with the substitution of the deciding rule
behind it, and nothing is put between the two. It names a path on that host exactly when the
substitution begins with a slash. Rules keep the slash that a URL begins with as long as their
replacements have one too; any other replacement can carry the host on.
-/
namespace RuleGate

/-- The location is a path on the host of the request, under its scheme. -/
def Context.IsOnHost (ctx : Context) (location : Text) : Prop :=
  ∃ path, location =
    (if ctx.scheme = .https then text "https" else text "http") ++ text "://" ++ ctx.host ++
      '/' :: path

theorem Scheme.name_eq (scheme : Scheme) :
    scheme.name = if scheme = .https then text "https" else text "http" := by
  cases scheme <;> rfl

def Outcome.redirect? : Outcome → Option (Status × Text)
  | .redirect status location => some (status, location)
  | _ => none

theorem Outcome.redirect?_eq_some_iff {outcome : Outcome} {status : Status} {location : Text} :
    outcome.redirect? = some (status, location) ↔ outcome = .redirect status location := by
  cases outcome <;> simp [redirect?]

namespace Rule

variable {r : Rule} {ctx : Context} {url : Text} {m : Pattern.Match}

theorem isOnHost_location_iff :
    ctx.IsOnHost (r.location ctx url) ↔ (r.substitute url).head? = some '/' := by
  unfold Context.IsOnHost location
  rw [Scheme.name_eq, List.head?_eq_some_iff]
  simp only [List.append_right_inj]

/-- A substitution begins as the URL does, unless the match is at its beginning. -/
theorem head?_substitute (h : r.pattern.find? url = some m) :
    (r.substitute url).head? =
      if url.take m.start = [] then (r.template.expand m url ++ url.drop m.stop).head?
      else url.head? := by
  rw [substitute_of_match h, List.append_assoc]
  split
  · rename_i hbefore
    rw [hbefore, List.nil_append]
  · rename_i hbefore
    calc (url.take m.start ++ (r.template.expand m url ++ url.drop m.stop)).head?
        = (url.take m.start).head? := List.head?_append_of_ne_nil _ hbefore
      _ = (url.take m.start ++ url.drop m.start).head? :=
        (List.head?_append_of_ne_nil _ hbefore).symm
      _ = url.head? := by rw [List.take_append_drop]

theorem head?_substitute_of_slash (hreplacement : r.replacement.head? = some '/')
    (hurl : url.head? = some '/') : (r.substitute url).head? = some '/' := by
  cases h : r.pattern.find? url with
  | none =>
    unfold substitute Pattern.substitute
    rw [h]
    exact hurl
  | some m =>
    obtain ⟨back, hback⟩ := List.head?_eq_some_iff.mp hreplacement
    rw [head?_substitute h]
    split
    · rw [template, hback, Replacement.toTemplate_cons_of_ne (by decide),
        Template.ofText_cons_of_ne (by decide)]
      rfl
    · exact hurl

theorem head?_urlAfter (hreplacement : r.replacement.head? = some '/')
    (hurl : url.head? = some '/') : (r.urlAfter ctx url).head? = some '/' := by
  unfold urlAfter
  split_ifs
  · exact hreplacement
  · exact head?_substitute_of_slash hreplacement hurl
  · exact hurl
  · exact hurl

end Rule

namespace RuleSet

variable {rules : RuleSet} {ctx : Context} {url location : Text} {status : Status}

/-- The walk sees a slash in front of every URL if there is one in front of the first URL and of
each replacement. -/
theorem head?_urlAt (hrules : ∀ r ∈ rules, r.replacement.head? = some '/')
    (hurl : url.head? = some '/') (i : Nat) : (rules.urlAt ctx url i).head? = some '/' := by
  induction i with
  | zero => exact hurl
  | succ i ih =>
    rw [urlAt]
    cases hr : rules[i]? with
    | none => exact ih
    | some r => exact Rule.head?_urlAfter (hrules r (List.mem_of_getElem? hr)) ih

theorem exists_of_redirect (h : (rules.evaluate ctx).outcome = .redirect status location) :
    ∃ i r, rules.DecidedBy ctx ctx.url i r ∧ r.action = .redirect status ∧
      location = r.location ctx (rules.urlAt ctx ctx.url i) ∧
      (rules.evaluate ctx).url = rules.urlAt ctx ctx.url i := by
  by_cases hdec : ∃ i r, rules.DecidedBy ctx ctx.url i r
  · obtain ⟨i, r, hir⟩ := hdec
    obtain ⟨hout, hurl⟩ := walk_of_decidedBy none hir
    refine ⟨i, r, hir, ?_⟩
    rw [show (rules.evaluate ctx).outcome = _ from hout, Rule.outcome] at h
    cases haction : r.action with
    | redirect code =>
      rw [haction] at h
      obtain ⟨rfl, rfl⟩ := Outcome.redirect.inj h
      exact ⟨rfl, rfl, hurl⟩
    | _ =>
      rw [haction] at h
      cases h
  · rw [show (rules.evaluate ctx).outcome = _ from walk_outcome_of_undecided none hdec] at h
    cases h

/-- A redirect leads to the host of the request with the URL behind it in which the deciding rule
has replaced its match. This is a path on the host exactly when it begins with a slash, which is up
to the replaced text if nothing precedes the match, and otherwise to the URL that the rules before
have left. Slashes in front of the URL of the request and of all replacements are enough. -/
theorem isOnHost_redirect_iff (h : (rules.evaluate ctx).outcome = .redirect status location) :
    let url := (rules.evaluate ctx).url
    ∃ i r m, rules.DecidedBy ctx ctx.url i r ∧ r.action = .redirect status ∧
      r.pattern.find? url = some m ∧
      location = ctx.scheme.name ++ text "://" ++ ctx.host ++
        (url.take m.start ++ r.template.expand m url ++ url.drop m.stop) ∧
      (ctx.IsOnHost location ↔
        (if url.take m.start = [] then (r.template.expand m url ++ url.drop m.stop).head?
          else url.head?) = some '/') ∧
      (ctx.url.head? = some '/' → (∀ rule ∈ rules, rule.replacement.head? = some '/') →
        ctx.IsOnHost location) := by
  obtain ⟨i, r, hdec, haction, rfl, hurl⟩ := exists_of_redirect h
  intro url
  have hsome : (r.pattern.find? url).isSome = true := by
    rw [show url = _ from hurl]
    exact hdec.2.isMatch
  obtain ⟨m, hm⟩ := Option.isSome_iff_exists.mp hsome
  refine ⟨i, r, m, hdec, haction, hm, ?_, ?_, fun hroot hrules => ?_⟩
  · rw [← hurl, Rule.location, Rule.substitute_of_match hm]
  · rw [← hurl, Rule.isOnHost_location_iff, Rule.head?_substitute hm]
  · have hmem : r ∈ rules := List.mem_of_getElem? hdec.1.1
    rw [Rule.isOnHost_location_iff]
    exact Rule.head?_substitute_of_slash (hrules r hmem) (head?_urlAt hrules hroot i)

/-- A redirect after a rewrite: the captured text stays behind the slash of the replacement. -/
theorem isOnHost_redirect_iff_moved :
    let rules := [Rule.ofWellFormed "^/old/ /new/" (by decide +kernel),
      Rule.ofWellFormed "^/new/(/[a-z]+)$ /$1?moved [R=302]" (by decide +kernel)]
    let ctx : Context := ⟨text "/old//evil", text "example.com", .https⟩
    let location := text "https://example.com//evil?moved"
    (RuleSet.evaluate rules ctx).outcome = .redirect ⟨302, by decide, by decide⟩ location ∧
      ctx.IsOnHost location := by
  intro rules ctx location
  have hredirect :
      (RuleSet.evaluate rules ctx).outcome = .redirect ⟨302, by decide, by decide⟩ location :=
    Outcome.redirect?_eq_some_iff.mp (by decide +kernel)
  obtain ⟨-, -, -, -, -, -, -, -, henough⟩ := isOnHost_redirect_iff hredirect
  exact ⟨hredirect, henough (by decide +kernel) (by decide +kernel)⟩

/-- A replacement without a slash in front carries the host on. -/
theorem not_isOnHost_redirect :
    ¬ ∀ (rules : RuleSet) (ctx : Context) (status : Status) (location : Text),
      (rules.evaluate ctx).outcome = .redirect status location → ctx.IsOnHost location := by
  intro h
  have hredirect :
      (RuleSet.evaluate [Rule.ofWellFormed "^/a$ .evil.example/ [R]" (by decide +kernel)]
        ⟨text "/a", text "example.com", .http⟩).outcome =
        .redirect .movedPermanently (text "http://example.com.evil.example/") :=
    Outcome.redirect?_eq_some_iff.mp (by decide +kernel)
  obtain ⟨path, hpath⟩ := h _ _ _ _ hredirect
  have hslash : (text "http://example.com.evil.example/")[18]? = some '/' := by
    rw [hpath]
    rfl
  exact absurd hslash (by decide)

end RuleSet

end RuleGate
