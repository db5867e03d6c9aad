import RuleGate.Proofs.Evaluation.Walk

/-! # Evaluation of two sets in a row

Where the first set ends the walk, the second has no say. Elsewhere the second set is evaluated as
if the request had come with the URL that the first one leaves, and the content type of the first
one stands unless the second names another.
-/
namespace RuleGate

theorem Rule.contentTypeAfter_eq_or (r : Rule) (ctx : Context) (url : Text)
    (before : Option Bytes) :
    r.contentTypeAfter ctx url before = (r.contentTypeAfter ctx url none).or before := by
  unfold contentTypeAfter
  split
  · rw [Option.or_none]
  · rfl

namespace RuleSet

/-- The content type at the start matters only where no rule of the walk names one. -/
theorem walk_contentType (rules : RuleSet) (ctx : Context) (url : Text)
    (contentType : Option Bytes) :
    walk ctx rules url contentType =
      { walk ctx rules url none with
        contentType := (walk ctx rules url none).contentType.or contentType } := by
  induction rules generalizing url contentType with
  | nil => rfl
  | cons r rules ih =>
    rw [walk_cons, walk_cons, Rule.contentTypeAfter_eq_or]
    by_cases h : r.Halts ctx url
    · simp only [h, if_true]
    · simp only [h, if_false]
      rw [ih, ih _ (r.contentTypeAfter ctx url none), Option.or_assoc]

/-- The walk reads host and scheme of the request, and its URL only to begin with. -/
theorem walk_withUrl (rules : RuleSet) (ctx : Context) (request url : Text)
    (contentType : Option Bytes) :
    walk { ctx with url := request } rules url contentType = walk ctx rules url contentType := by
  induction rules generalizing url contentType with
  | nil => rfl
  | cons r rules ih =>
    have hstep : r.step { ctx with url := request } url = r.step ctx url := rfl
    have htype : r.contentTypeAfter { ctx with url := request } url contentType =
        r.contentTypeAfter ctx url contentType := rfl
    rw [walk, walk, hstep, htype]
    simp only [ih]

theorem walk_append_of_stops {a b : RuleSet} {ctx : Context} {url : Text}
    {contentType : Option Bytes} (h : a.Stops ctx url) :
    walk ctx (a ++ b) url contentType = walk ctx a url contentType := by
  induction a generalizing url contentType with
  | nil => exact absurd h not_stops_nil
  | cons r a ih =>
    rw [List.cons_append, walk_cons, walk_cons]
    by_cases hr : r.Halts ctx url
    · rw [if_pos hr, if_pos hr]
    · rw [if_neg hr, if_neg hr]
      exact ih ((stops_cons.mp h).resolve_left hr)

theorem walk_append_of_not_stops {a b : RuleSet} {ctx : Context} {url : Text}
    {contentType : Option Bytes} (h : ¬ a.Stops ctx url) :
    walk ctx (a ++ b) url contentType =
      walk ctx b (walk ctx a url contentType).url (walk ctx a url contentType).contentType := by
  induction a generalizing url contentType with
  | nil => rfl
  | cons r a ih =>
    rw [stops_cons, not_or] at h
    rw [List.cons_append, walk_cons, walk_cons, if_neg h.1, if_neg h.1]
    exact ih h.2

/-- Evaluation is compositional: a set that ends the walk is evaluated as if it stood alone, and
any other set only changes the URL and the content type with which the rules after it begin. -/
theorem evaluate_append (a b : RuleSet) (ctx : Context) :
    let whole := (a ++ b).evaluate ctx
    let first := a.evaluate ctx
    let second := b.evaluate { ctx with url := first.url }
    (a.Stops ctx ctx.url → whole = first ∧ whole.query = first.query) ∧
      (¬ a.Stops ctx ctx.url →
        whole.outcome = second.outcome ∧ whole.url = second.url ∧ whole.query = second.query ∧
          whole.contentType = second.contentType.or first.contentType) := by
  intro whole first second
  constructor
  · intro h
    have heq : whole = first := walk_append_of_stops h
    exact ⟨heq, by rw [heq]⟩
  · intro h
    have heq : whole = walk ctx b first.url first.contentType := walk_append_of_not_stops h
    have hsecond : second = walk ctx b first.url none := walk_withUrl ..
    rw [walk_contentType] at heq
    rw [heq, hsecond]
    exact ⟨rfl, rfl, rfl, rfl⟩

end RuleSet

end RuleGate
