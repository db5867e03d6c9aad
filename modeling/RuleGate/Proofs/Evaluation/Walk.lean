import RuleGate.Evaluation

/-! # The walk over a rule set

The URL that a rule sees is a function of the rules before it, and so is whether the walk gets to
the rule at all. A rule either ends the walk or hands the URL that it leaves to the next one; the
walk over a set follows from this by recursion on the set.
-/
namespace RuleGate

namespace Rule

/-- The host filter passes, and the pattern matches or, for an inverted rule, does not. -/
def Fires (r : Rule) (ctx : Context) (url : Text) : Prop :=
  r.acceptsHost ctx.host = true ∧ r.isMatch url ≠ r.inverted

/-- The rule fires with an action of its own, which inverted rules do not have. -/
structure Decides (r : Rule) (ctx : Context) (url : Text) : Prop where
  acceptsHost : r.acceptsHost ctx.host = true
  plain : r.inverted = false
  action_ne : r.action ≠ .replace
  isMatch : r.isMatch url = true

/-- The rule ends the walk, by an action of its own or by firing with the flag `L`. -/
def Halts (r : Rule) (ctx : Context) (url : Text) : Prop :=
  r.Decides ctx url ∨ (r.Fires ctx url ∧ r.last = true)

def outcome (r : Rule) (ctx : Context) (url : Text) : Outcome :=
  match r.action with
  | .replace => .continue
  | .gone => .gone
  | .forbidden => .forbidden
  | .proxy => .proxy r
  | .redirect status =>
    .redirect status (ctx.scheme.name ++ text "://" ++ ctx.host ++ r.substitute url)

instance (r : Rule) (ctx : Context) (url : Text) : Decidable (r.Fires ctx url) :=
  inferInstanceAs (Decidable (_ ∧ _))

def urlAfter (r : Rule) (ctx : Context) (url : Text) : Text :=
  if r.Fires ctx url then
    if r.inverted then r.replacement
    else if r.action = .replace then r.substitute url
    else url
  else url

theorem decides_iff {r : Rule} {ctx : Context} {url : Text} :
    r.Decides ctx url ↔ r.Fires ctx url ∧ r.inverted = false ∧ r.action ≠ .replace := by
  constructor
  · rintro ⟨ha, hi, hn, hm⟩
    exact ⟨⟨ha, by simp [hi, hm]⟩, hi, hn⟩
  · rintro ⟨⟨ha, hm⟩, hi, hn⟩
    exact ⟨ha, hi, hn, by simpa [hi] using hm⟩

instance (r : Rule) (ctx : Context) (url : Text) : Decidable (r.Decides ctx url) :=
  decidable_of_iff _ decides_iff.symm

instance (r : Rule) (ctx : Context) (url : Text) : Decidable (r.Halts ctx url) :=
  inferInstanceAs (Decidable (_ ∨ _))

variable {r : Rule} {ctx : Context} {url : Text}

theorem Decides.fires (h : r.Decides ctx url) : r.Fires ctx url := (decides_iff.mp h).1

theorem Halts.fires (h : r.Halts ctx url) : r.Fires ctx url := by
  rcases h with h | h
  · exact h.fires
  · exact h.1

theorem urlAfter_of_not_fires (h : ¬ r.Fires ctx url) : r.urlAfter ctx url = url := if_neg h

theorem urlAfter_of_decides (h : r.Decides ctx url) : r.urlAfter ctx url = url := by
  rw [urlAfter, if_pos h.fires]
  simp [h.plain, h.action_ne]

theorem outcome_isTerminal (h : r.action ≠ .replace) : (r.outcome ctx url).isTerminal = true := by
  unfold outcome
  cases ha : r.action with
  | replace => exact absurd ha h
  | _ => rfl

theorem contentTypeAfter_of_not_fires (h : ¬ r.Fires ctx url) (before : Option Bytes) :
    r.contentTypeAfter ctx url before = before := by
  refine if_neg fun hfired => h ?_
  unfold reaction at hfired
  unfold Fires
  cases ha : r.acceptsHost ctx.host <;> cases hi : r.inverted <;> cases hm : r.isMatch url <;>
    simp_all

/-- A rule that does not fire is passed over, and a rule that ends the walk does so with the
outcome of its action, unless it has none of its own. -/
theorem step_eq (r : Rule) (ctx : Context) (url : Text) :
    r.step ctx url =
      if r.Halts ctx url then
        .stop (if r.Decides ctx url then r.outcome ctx url else .continue) (r.urlAfter ctx url)
      else .next (r.urlAfter ctx url) := by
  unfold step reaction urlAfter Halts
  cases ha : r.acceptsHost ctx.host with
  | false => simp [decides_iff, Fires, ha]
  | true =>
    cases hi : r.inverted <;> cases hm : r.isMatch url
    · simp [decides_iff, Fires, hi, hm]
    · cases hact : r.action <;>
        simp [decides_iff, Fires, ha, hi, hm, hact, outcome, location, pass]
    · simp [decides_iff, Fires, ha, hi, hm, pass]
    · simp [decides_iff, Fires, hi, hm]

end Rule

namespace RuleSet

/-- The URL that rule number `i` sees when the first rule sees `url`. -/
def urlAt (rules : RuleSet) (ctx : Context) (url : Text) : Nat → Text
  | 0 => url
  | i + 1 =>
    match rules[i]? with
    | some r => r.urlAfter ctx (urlAt rules ctx url i)
    | none => urlAt rules ctx url i

/-- Rule number `i` is `r`, and no rule before it ends the walk. -/
def Reaches (rules : RuleSet) (ctx : Context) (url : Text) (i : Nat) (r : Rule) : Prop :=
  rules[i]? = some r ∧
    ∀ j s, j < i → rules[j]? = some s → ¬ s.Halts ctx (rules.urlAt ctx url j)

def Stops (rules : RuleSet) (ctx : Context) (url : Text) : Prop :=
  ∃ i r, rules.Reaches ctx url i r ∧ r.Halts ctx (rules.urlAt ctx url i)

variable {rules : RuleSet} {r s : Rule} {ctx : Context} {url : Text} {i : Nat}

theorem urlAt_cons_succ :
    urlAt (r :: rules) ctx url (i + 1) = rules.urlAt ctx (r.urlAfter ctx url) i := by
  induction i with
  | zero => rfl
  | succ i ih =>
    rw [urlAt, ih, List.getElem?_cons_succ]
    rfl

theorem reaches_cons_zero : Reaches (r :: rules) ctx url 0 s ↔ s = r := by
  simp [Reaches, eq_comm]

theorem reaches_cons_succ :
    Reaches (r :: rules) ctx url (i + 1) s ↔
      ¬ r.Halts ctx url ∧ rules.Reaches ctx (r.urlAfter ctx url) i s := by
  unfold Reaches
  rw [List.getElem?_cons_succ]
  constructor
  · rintro ⟨hs, hbefore⟩
    refine ⟨hbefore 0 r (by omega) rfl, hs, fun j t hj ht => ?_⟩
    rw [← urlAt_cons_succ]
    exact hbefore (j + 1) t (by omega) ht
  · rintro ⟨hr, hs, hbefore⟩
    refine ⟨hs, fun j t hj ht => ?_⟩
    cases j with
    | zero =>
      obtain rfl : r = t := by simpa using ht
      exact hr
    | succ j =>
      rw [urlAt_cons_succ]
      exact hbefore j t (by omega) ht

theorem not_reaches_nil : ¬ Reaches [] ctx url i r := by simp [Reaches]

theorem not_stops_nil : ¬ Stops [] ctx url := by
  rintro ⟨i, r, h, -⟩
  exact not_reaches_nil h

theorem stops_cons :
    Stops (r :: rules) ctx url ↔ r.Halts ctx url ∨ rules.Stops ctx (r.urlAfter ctx url) := by
  constructor
  · rintro ⟨i, s, hreach, hhalt⟩
    cases i with
    | zero =>
      obtain rfl := reaches_cons_zero.mp hreach
      exact .inl hhalt
    | succ i =>
      rw [urlAt_cons_succ] at hhalt
      exact .inr ⟨i, s, (reaches_cons_succ.mp hreach).2, hhalt⟩
  · intro h
    by_cases hr : r.Halts ctx url
    · exact ⟨0, r, reaches_cons_zero.mpr rfl, hr⟩
    · obtain ⟨i, s, hreach, hhalt⟩ := h.resolve_left hr
      refine ⟨i + 1, s, reaches_cons_succ.mpr ⟨hr, hreach⟩, ?_⟩
      rwa [urlAt_cons_succ]

theorem walk_cons (rules : RuleSet) (r : Rule) (ctx : Context) (url : Text)
    (contentType : Option Bytes) :
    walk ctx (r :: rules) url contentType =
      if r.Halts ctx url then
        ⟨if r.Decides ctx url then r.outcome ctx url else .continue, r.urlAfter ctx url,
          r.contentTypeAfter ctx url contentType⟩
      else
        walk ctx rules (r.urlAfter ctx url) (r.contentTypeAfter ctx url contentType) := by
  rw [walk, Rule.step_eq]
  by_cases h : r.Halts ctx url <;> simp [h]

end RuleSet

end RuleGate
