import RuleGate.Proofs.Evaluation.ContentType
import RuleGate.Proofs.Evaluation.Decision
import RuleGate.Proofs.Rule.Directive

/-! # Flags without effect

An inverted rule has neither an action nor a content type of its own, a rule that ends the walk by
its action does not need the flag `L` for it, nor does the last rule of a set, and a rule that
refuses a request has no use for a replacement. Sets that differ in such things only leave every
request with the same URL and content type, and by the rule with the same number.
-/
namespace RuleGate

namespace Rule

/-- The rules differ in what has no effect, and in the texts that they are compiled from. When the
rule is the final one of its set, the flag `L` has none. -/
structure Interchangeable (final : Bool) (r s : Rule) : Prop where
  pattern_eq : s.pattern = r.pattern
  host_eq : s.host = r.host
  inverted_eq : s.inverted = r.inverted
  action_eq : r.inverted = false → s.action = r.action
  contentType_eq : r.inverted = false → s.contentType = r.contentType
  last_eq : final = false → r.inverted = true ∨ r.action = .replace → s.last = r.last
  replacement_eq : r.inverted = true ∨ r.action ≠ .gone ∧ r.action ≠ .forbidden →
    s.replacement = r.replacement

namespace Interchangeable

variable {final : Bool} {r s : Rule} {ctx : Context} {url : Text}

theorem fires_iff (h : r.Interchangeable final s) : s.Fires ctx url ↔ r.Fires ctx url := by
  unfold Fires acceptsHost isMatch
  rw [h.host_eq, h.pattern_eq, h.inverted_eq]

theorem decides_iff (h : r.Interchangeable final s) : s.Decides ctx url ↔ r.Decides ctx url := by
  rw [Rule.decides_iff, Rule.decides_iff, h.fires_iff, h.inverted_eq]
  refine and_congr_right fun _ => and_congr_right fun hplain => ?_
  rw [h.action_eq hplain]

/-- Before the end of a set, a rule that needs no `L` to end the walk ends it by its action. -/
theorem halts_iff (h : r.Interchangeable false s) : s.Halts ctx url ↔ r.Halts ctx url := by
  unfold Halts
  rw [h.decides_iff, h.fires_iff]
  by_cases hflag : r.inverted = true ∨ r.action = .replace
  · rw [h.last_eq rfl hflag]
  · obtain ⟨hplain, haction⟩ := not_or.mp hflag
    have hdecides (hfires : r.Fires ctx url) : r.Decides ctx url :=
      Rule.decides_iff.mpr ⟨hfires, by simpa using hplain, haction⟩
    exact ⟨fun hhalt => .inl (hhalt.elim id fun hfires => hdecides hfires.1),
      fun hhalt => .inl (hhalt.elim id fun hfires => hdecides hfires.1)⟩

theorem substitute_eq (h : r.Interchangeable final s) (hgone : r.action ≠ .gone)
    (hforbidden : r.action ≠ .forbidden) : s.substitute url = r.substitute url := by
  unfold substitute template
  rw [h.pattern_eq, h.replacement_eq (.inr ⟨hgone, hforbidden⟩)]

theorem urlAfter_eq (h : r.Interchangeable final s) : s.urlAfter ctx url = r.urlAfter ctx url := by
  unfold urlAfter
  simp only [h.fires_iff, h.inverted_eq]
  by_cases hinverted : r.inverted = true
  · rw [if_pos hinverted, if_pos hinverted, h.replacement_eq (.inl hinverted)]
  · rw [if_neg hinverted, if_neg hinverted, h.action_eq (by simpa using hinverted)]
    by_cases haction : r.action = .replace
    · rw [h.substitute_eq (by simp [haction]) (by simp [haction])]
    · rw [if_neg haction, if_neg haction]

theorem contentTypeAfter_eq (h : r.Interchangeable final s) (before : Option Bytes) :
    s.contentTypeAfter ctx url before = r.contentTypeAfter ctx url before := by
  unfold contentTypeAfter
  simp only [reaction_eq_fired_iff, h.fires_iff, h.inverted_eq]
  by_cases hfired : r.Fires ctx url ∧ r.inverted = false
  · rw [if_pos hfired, if_pos hfired, h.contentType_eq hfired.2]
  · rw [if_neg hfired, if_neg hfired]

end Interchangeable

end Rule

namespace RuleSet

inductive Interchangeable : RuleSet → RuleSet → Prop
  | nil : Interchangeable [] []
  | cons {r s : Rule} {rules others : RuleSet} (hrule : r.Interchangeable rules.isEmpty s)
    (hrules : Interchangeable rules others) : Interchangeable (r :: rules) (s :: others)

/-- Outcomes that are the same, or name the deciding rules of two sets, which have one number. -/
inductive SameOutcome (rules others : RuleSet) (ctx : Context) (url : Text) :
    Outcome → Outcome → Prop
  | same {outcome : Outcome} (h : ∀ r, outcome ≠ .proxy r) :
    SameOutcome rules others ctx url outcome outcome
  | proxy {i : Nat} {r s : Rule} (hr : rules.DecidedBy ctx url i r)
    (hs : others.DecidedBy ctx url i s) : SameOutcome rules others ctx url (.proxy r) (.proxy s)

structure SameEvaluation (rules others : RuleSet) (ctx : Context) (url : Text)
    (e e' : Evaluation) : Prop where
  outcome : SameOutcome rules others ctx url e.outcome e'.outcome
  url_eq : e'.url = e.url
  contentType_eq : e'.contentType = e.contentType

variable {rules others : RuleSet} {r s : Rule} {ctx : Context} {url : Text}

theorem sameOutcome_of_decides (h : r.Interchangeable rules.isEmpty s)
    (hdec : r.Decides ctx url) :
    SameOutcome (r :: rules) (s :: others) ctx url (r.outcome ctx url) (s.outcome ctx url) := by
  have hdec' : s.Decides ctx url := h.decides_iff.mpr hdec
  unfold Rule.outcome
  rw [h.action_eq hdec.plain]
  cases haction : r.action with
  | replace => exact absurd haction hdec.action_ne
  | proxy =>
    exact .proxy (i := 0) (decidedBy_cons_zero.mpr ⟨rfl, hdec⟩)
      (decidedBy_cons_zero.mpr ⟨rfl, hdec'⟩)
  | redirect status =>
    rw [h.substitute_eq (by simp [haction]) (by simp [haction])]
    exact .same nofun
  | gone => exact .same nofun
  | forbidden => exact .same nofun

theorem SameOutcome.cons {outcome outcome' : Outcome} (hr : ¬ r.Halts ctx url)
    (hs : ¬ s.Halts ctx url) (hurl : s.urlAfter ctx url = r.urlAfter ctx url)
    (h : SameOutcome rules others ctx (r.urlAfter ctx url) outcome outcome') :
    SameOutcome (r :: rules) (s :: others) ctx url outcome outcome' := by
  cases h with
  | same h => exact .same h
  | proxy hdec hdec' =>
    exact .proxy (decidedBy_cons_succ.mpr ⟨hr, hdec⟩)
      (decidedBy_cons_succ.mpr ⟨hs, hurl ▸ hdec'⟩)

theorem walk_singleton (r : Rule) (ctx : Context) (url : Text) (contentType : Option Bytes) :
    walk ctx [r] url contentType =
      ⟨if r.Decides ctx url then r.outcome ctx url else .continue, r.urlAfter ctx url,
        r.contentTypeAfter ctx url contentType⟩ := by
  rw [walk_cons]
  split
  · rfl
  · rename_i hhalt
    rw [if_neg fun hdec => hhalt (.inl hdec)]
    rfl

theorem walk_of_interchangeable (h : Interchangeable rules others) (url : Text)
    (contentType : Option Bytes) :
    SameEvaluation rules others ctx url (walk ctx rules url contentType)
      (walk ctx others url contentType) := by
  induction h generalizing url contentType with
  | nil => exact ⟨.same nofun, rfl, rfl⟩
  | @cons r s rules others hrule hrules ih =>
    have hfirst : SameEvaluation (r :: rules) (s :: others) ctx url
        ⟨if r.Decides ctx url then r.outcome ctx url else .continue, r.urlAfter ctx url,
          r.contentTypeAfter ctx url contentType⟩
        ⟨if s.Decides ctx url then s.outcome ctx url else .continue, s.urlAfter ctx url,
          s.contentTypeAfter ctx url contentType⟩ := by
      refine ⟨?_, hrule.urlAfter_eq, hrule.contentTypeAfter_eq contentType⟩
      by_cases hdec : r.Decides ctx url
      · rw [if_pos hdec, if_pos (hrule.decides_iff.mpr hdec)]
        exact sameOutcome_of_decides hrule hdec
      · rw [if_neg hdec, if_neg (hrule.decides_iff.not.mpr hdec)]
        exact .same nofun
    cases hrules with
    | nil =>
      rw [walk_singleton, walk_singleton]
      exact hfirst
    | @cons next next' rest rest' hnext hrest =>
      rw [walk_cons (next :: rest) r, walk_cons (next' :: rest') s]
      by_cases hhalt : r.Halts ctx url
      · rw [if_pos hhalt, if_pos (hrule.halts_iff.mpr hhalt)]
        exact hfirst
      · have hhalt' : ¬ s.Halts ctx url := hrule.halts_iff.not.mpr hhalt
        obtain ⟨hout, hurl, hcontent⟩ :=
          ih (r.urlAfter ctx url) (r.contentTypeAfter ctx url contentType)
        rw [if_neg hhalt, if_neg hhalt', hrule.urlAfter_eq, hrule.contentTypeAfter_eq]
        exact ⟨hout.cons hhalt hhalt' hrule.urlAfter_eq, hurl, hcontent⟩

/-- Interchangeable sets evaluate alike: URL, content type and query mapping are the same, and so is
the outcome, in which a proxying rule is the one with the same number. Where only inverted rules
have an action, every request goes on. -/
theorem evaluate_of_interchangeable (ctx : Context) :
    (∀ rules others : RuleSet, Interchangeable rules others →
      SameEvaluation rules others ctx ctx.url (rules.evaluate ctx) (others.evaluate ctx) ∧
        (others.evaluate ctx).query = (rules.evaluate ctx).query) ∧
    ∀ rules : RuleSet, (∀ r ∈ rules, r.action ≠ .replace → r.inverted = true) →
      (rules.evaluate ctx).outcome = .continue := by
  refine ⟨fun rules others h => ?_, fun rules h => walk_outcome_of_undecided none ?_⟩
  · have hsame : SameEvaluation rules others ctx ctx.url (rules.evaluate ctx)
        (others.evaluate ctx) := walk_of_interchangeable h ctx.url none
    exact ⟨hsame, congrArg Query.ofUrl? hsame.url_eq⟩
  · rintro ⟨i, r, hreach, hdec⟩
    have hinverted := h r (List.mem_of_getElem? hreach.1) hdec.action_ne
    rw [hdec.plain] at hinverted
    exact absurd hinverted nofun

/-- Action and content type of an inverted rule, the flag `L` of a proxying one, and both the flag
and the replacement of a last one that refuses are changed at once. -/
theorem evaluate_of_interchangeable_three :
    let inverted := Rule.ofWellFormed "!^/q /z?k [F,T=a/b]" (by decide +kernel)
    let proxy := Rule.ofWellFormed "^/z http://[::1]/y [P,T=c/d]" (by decide +kernel)
    let gone := Rule.ofWellFormed "^/ - [G]" (by decide +kernel)
    let rules := [inverted, proxy, gone]
    let others := [{ inverted with action := .gone, contentType := none },
      { proxy with last := true }, { gone with last := true, replacement := text "/x" }]
    let ctx : Context := ⟨text "/a", text "h", .http⟩
    Interchangeable rules others ∧
      SameEvaluation rules others ctx ctx.url (evaluate rules ctx) (evaluate others ctx) ∧
      (evaluate rules ctx).outcome.isTerminal = true ∧
      (evaluate others ctx).url = text "/z?k" ∧
      (∀ r ∈ [inverted], r.action ≠ .replace → r.inverted = true) ∧
      (evaluate [inverted] ctx).outcome = .continue := by
  intro inverted proxy gone rules others ctx
  have hinverted : inverted.inverted = true := by decide +kernel
  have hproxy : ¬ (proxy.inverted = true ∨ proxy.action = .replace) := by decide +kernel
  have hgone : ¬ (gone.inverted = true ∨ gone.action ≠ .gone ∧ gone.action ≠ .forbidden) := by
    decide +kernel
  have hrules : Interchangeable rules others :=
    .cons ⟨rfl, rfl, rfl, fun h => absurd (hinverted.symm.trans h) nofun,
        fun h => absurd (hinverted.symm.trans h) nofun, fun _ _ => rfl, fun _ => rfl⟩
      (.cons ⟨rfl, rfl, rfl, fun _ => rfl, fun _ => rfl, fun _ h => absurd h hproxy, fun _ => rfl⟩
        (.cons ⟨rfl, rfl, rfl, fun _ => rfl, fun _ => rfl, nofun, fun h => absurd h hgone⟩ .nil))
  have honly : ∀ r ∈ [inverted], r.action ≠ .replace → r.inverted = true := fun r hr _ => by
    rw [List.mem_singleton.mp hr, hinverted]
  obtain ⟨hsame, hcontinue⟩ := evaluate_of_interchangeable ctx
  exact ⟨hrules, (hsame rules others hrules).1, by decide +kernel, by decide +kernel, honly,
    hcontinue _ honly⟩

end RuleSet

end RuleGate
