import RuleGate.Proofs.Evaluation.Walk

/-! # The content type of an evaluation

A rule names a content type when it fires, is not inverted and carries one. The walk keeps what
was named last, by whichever rules it gets to; all other rules leave the content type alone.
-/
namespace RuleGate

namespace Rule

def Names (r : Rule) (ctx : Context) (url : Text) (value : Bytes) : Prop :=
  r.Fires ctx url ∧ r.inverted = false ∧ r.contentType = some value

variable {r : Rule} {ctx : Context} {url : Text} {value : Bytes}

instance (r : Rule) (ctx : Context) (url : Text) (value : Bytes) :
    Decidable (r.Names ctx url value) :=
  inferInstanceAs (Decidable (_ ∧ _))

theorem reaction_eq_fired_iff :
    r.reaction ctx.host url = .fired ↔ r.Fires ctx url ∧ r.inverted = false := by
  unfold reaction Fires
  cases ha : r.acceptsHost ctx.host <;> cases hi : r.inverted <;> cases hm : r.isMatch url <;> simp

theorem contentTypeAfter_of_names (h : r.Names ctx url value) (before : Option Bytes) :
    r.contentTypeAfter ctx url before = some value := by
  rw [contentTypeAfter, if_pos (reaction_eq_fired_iff.mpr ⟨h.1, h.2.1⟩), h.2.2, Option.some_or]

theorem contentTypeAfter_of_not_names (h : ∀ value, ¬ r.Names ctx url value)
    (before : Option Bytes) : r.contentTypeAfter ctx url before = before := by
  unfold contentTypeAfter
  split
  · rename_i hfired
    obtain ⟨hf, hi⟩ := reaction_eq_fired_iff.mp hfired
    cases hc : r.contentType with
    | none => rfl
    | some value => exact absurd ⟨hf, hi, hc⟩ (h value)
  · rfl

end Rule

namespace RuleSet

/-- The walk gets to rule number `i`, and the rule names this content type there. -/
def NamedAt (rules : RuleSet) (ctx : Context) (url : Text) (i : Nat) (value : Bytes) : Prop :=
  ∃ r, rules.Reaches ctx url i r ∧ r.Names ctx (rules.urlAt ctx url i) value

/-- No rule that the walk gets to after rule number `i` names a content type. -/
def SilentAfter (rules : RuleSet) (ctx : Context) (url : Text) (i : Nat) : Prop :=
  ∀ j value, i < j → ¬ rules.NamedAt ctx url j value

def Silent (rules : RuleSet) (ctx : Context) (url : Text) : Prop :=
  ∀ i value, ¬ rules.NamedAt ctx url i value

variable {rules : RuleSet} {r : Rule} {ctx : Context} {url : Text} {i j : Nat} {v w : Bytes}

theorem not_namedAt_nil : ¬ NamedAt [] ctx url i v := by
  rintro ⟨r, h, -⟩
  exact not_reaches_nil h

theorem namedAt_cons_zero : NamedAt (r :: rules) ctx url 0 v ↔ r.Names ctx url v := by
  unfold NamedAt
  simp only [reaches_cons_zero, exists_eq_left]
  rfl

theorem namedAt_cons_succ :
    NamedAt (r :: rules) ctx url (i + 1) v ↔
      ¬ r.Halts ctx url ∧ rules.NamedAt ctx (r.urlAfter ctx url) i v := by
  unfold NamedAt
  simp only [reaches_cons_succ, urlAt_cons_succ, and_assoc, exists_and_left]

theorem silentAfter_cons_zero :
    SilentAfter (r :: rules) ctx url 0 ↔
      (¬ r.Halts ctx url → rules.Silent ctx (r.urlAfter ctx url)) := by
  constructor
  · intro h hr i v hv
    exact h (i + 1) v (by omega) (namedAt_cons_succ.mpr ⟨hr, hv⟩)
  · intro h j v hj hv
    obtain ⟨j, rfl⟩ := Nat.exists_eq_succ_of_ne_zero (by omega : j ≠ 0)
    obtain ⟨hr, hv⟩ := namedAt_cons_succ.mp hv
    exact h hr j v hv

theorem silentAfter_cons_succ (hr : ¬ r.Halts ctx url) :
    SilentAfter (r :: rules) ctx url (i + 1) ↔
      rules.SilentAfter ctx (r.urlAfter ctx url) i := by
  constructor
  · intro h j v hj hv
    exact h (j + 1) v (by omega) (namedAt_cons_succ.mpr ⟨hr, hv⟩)
  · intro h j v hj hv
    obtain ⟨j, rfl⟩ := Nat.exists_eq_succ_of_ne_zero (by omega : j ≠ 0)
    exact h j v (by omega) (namedAt_cons_succ.mp hv).2

theorem silent_cons :
    Silent (r :: rules) ctx url ↔
      (∀ v, ¬ r.Names ctx url v) ∧ SilentAfter (r :: rules) ctx url 0 := by
  constructor
  · intro h
    exact ⟨fun v hv => h 0 v (namedAt_cons_zero.mpr hv), fun j v _ => h j v⟩
  · rintro ⟨hr, hrest⟩ i v hv
    cases i with
    | zero => exact hr v (namedAt_cons_zero.mp hv)
    | succ i => exact hrest (i + 1) v (by omega) hv

theorem NamedAt.index_unique (hi : rules.NamedAt ctx url i v) (hsi : rules.SilentAfter ctx url i)
    (hj : rules.NamedAt ctx url j w) (hsj : rules.SilentAfter ctx url j) : j = i := by
  rcases Nat.lt_trichotomy i j with h | h | h
  · exact absurd hj (hsi j w h)
  · exact h.symm
  · exact absurd hi (hsj i v h)

/-- A walk keeps what was named last, and what it began with if nothing is named. -/
theorem walk_named (rules : RuleSet) (ctx : Context) (url : Text) (before : Option Bytes) :
    (∃ i v, rules.NamedAt ctx url i v ∧ rules.SilentAfter ctx url i ∧
      (walk ctx rules url before).contentType = some v) ∨
    (rules.Silent ctx url ∧ (walk ctx rules url before).contentType = before) := by
  induction rules generalizing url before with
  | nil => exact .inr ⟨fun i v => not_namedAt_nil, rfl⟩
  | cons r rules ih =>
    rw [walk_cons]
    have hfirst (hrest : SilentAfter (r :: rules) ctx url 0) :
        (∃ i v, NamedAt (r :: rules) ctx url i v ∧ SilentAfter (r :: rules) ctx url i ∧
          r.contentTypeAfter ctx url before = some v) ∨
        (Silent (r :: rules) ctx url ∧ r.contentTypeAfter ctx url before = before) := by
      by_cases hr : ∃ v, r.Names ctx url v
      · obtain ⟨v, hv⟩ := hr
        exact .inl ⟨0, v, namedAt_cons_zero.mpr hv, hrest, Rule.contentTypeAfter_of_names hv before⟩
      · rw [not_exists] at hr
        exact .inr ⟨silent_cons.mpr ⟨hr, hrest⟩, Rule.contentTypeAfter_of_not_names hr before⟩
    by_cases hhalt : r.Halts ctx url
    · rw [if_pos hhalt]
      exact hfirst (silentAfter_cons_zero.mpr fun hr => absurd hhalt hr)
    · rw [if_neg hhalt]
      rcases ih (r.urlAfter ctx url) (r.contentTypeAfter ctx url before) with
        ⟨i, v, hv, hrest, heq⟩ | ⟨hrest, heq⟩
      · exact .inl ⟨i + 1, v, namedAt_cons_succ.mpr ⟨hhalt, hv⟩,
          (silentAfter_cons_succ hhalt).mpr hrest, heq⟩
      · rw [heq]
        exact hfirst (silentAfter_cons_zero.mpr fun _ => hrest)

/-- The content type of an evaluation is what the last rule to name one has named. -/
theorem contentType_evaluate_eq_some_iff :
    (rules.evaluate ctx).contentType = some v ↔
      ∃ i, rules.NamedAt ctx ctx.url i v ∧ rules.SilentAfter ctx ctx.url i := by
  rcases walk_named rules ctx ctx.url none with ⟨i, w, hw, hrest, heq⟩ | ⟨hsilent, heq⟩
  · rw [evaluate, heq, Option.some.injEq]
    constructor
    · rintro rfl
      exact ⟨i, hw, hrest⟩
    · rintro ⟨j, hv, hj⟩
      obtain rfl := hw.index_unique hrest hv hj
      obtain ⟨r, hr, hrw⟩ := hw
      obtain ⟨s, hs, hsv⟩ := hv
      obtain rfl : r = s := Option.some.inj (hr.1.symm.trans hs.1)
      exact Option.some.inj (hrw.2.2.symm.trans hsv.2.2)
  · rw [evaluate, heq]
    exact ⟨nofun, fun ⟨i, hv, _⟩ => absurd hv (hsilent i v)⟩

theorem contentType_evaluate_eq_none_iff :
    (rules.evaluate ctx).contentType = none ↔ rules.Silent ctx ctx.url := by
  rcases walk_named rules ctx ctx.url none with ⟨i, w, hw, hrest, heq⟩ | ⟨hsilent, heq⟩
  · rw [evaluate, heq]
    exact ⟨nofun, fun hsilent => absurd hw (hsilent i w)⟩
  · rw [evaluate, heq]
    exact ⟨fun _ => hsilent, fun _ => rfl⟩

end RuleSet

end RuleGate
