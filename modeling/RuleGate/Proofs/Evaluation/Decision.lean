import RuleGate.Proofs.Evaluation.Walk

/-! # The rule that decides

An evaluation is terminal exactly when the walk gets to a rule that fires with an action of its
own, and this rule alone determines the outcome. Everywhere else the request goes on with the URL
that the last rule to fire has left.
-/
namespace RuleGate.RuleSet

/-- The walk gets to rule number `i`, which is `r` and fires with an action of its own. -/
def DecidedBy (rules : RuleSet) (ctx : Context) (url : Text) (i : Nat) (r : Rule) : Prop :=
  rules.Reaches ctx url i r ∧ r.Decides ctx (rules.urlAt ctx url i)

/-- The walk gets to rule number `i`, which is `r` and fires, and to no later rule that fires. -/
def LastFired (rules : RuleSet) (ctx : Context) (url : Text) (i : Nat) (r : Rule) : Prop :=
  rules.Reaches ctx url i r ∧ r.Fires ctx (rules.urlAt ctx url i) ∧
    ∀ j s, i < j → rules.Reaches ctx url j s → ¬ s.Fires ctx (rules.urlAt ctx url j)

def NoneFires (rules : RuleSet) (ctx : Context) (url : Text) : Prop :=
  ∀ i r, rules.Reaches ctx url i r → ¬ r.Fires ctx (rules.urlAt ctx url i)

variable {rules : RuleSet} {r s : Rule} {ctx : Context} {url : Text} {i j : Nat}

theorem decidedBy_cons_zero : DecidedBy (r :: rules) ctx url 0 s ↔ s = r ∧ r.Decides ctx url := by
  unfold DecidedBy
  rw [reaches_cons_zero]
  constructor
  · rintro ⟨rfl, h⟩
    exact ⟨rfl, h⟩
  · rintro ⟨rfl, h⟩
    exact ⟨rfl, h⟩

theorem decidedBy_cons_succ :
    DecidedBy (r :: rules) ctx url (i + 1) s ↔
      ¬ r.Halts ctx url ∧ rules.DecidedBy ctx (r.urlAfter ctx url) i s := by
  unfold DecidedBy
  rw [reaches_cons_succ, urlAt_cons_succ, and_assoc]

theorem DecidedBy.index_unique (hi : rules.DecidedBy ctx url i r)
    (hj : rules.DecidedBy ctx url j s) : j = i := by
  rcases Nat.lt_trichotomy i j with h | h | h
  · exact absurd (.inl hi.2) (hj.1.2 i r h hi.1.1)
  · exact h.symm
  · exact absurd (.inl hj.2) (hi.1.2 j s h hj.1.1)

theorem walk_of_decidedBy (contentType : Option Bytes) (h : rules.DecidedBy ctx url i r) :
    (walk ctx rules url contentType).outcome = r.outcome ctx (rules.urlAt ctx url i) ∧
      (walk ctx rules url contentType).url = rules.urlAt ctx url i := by
  induction rules generalizing url contentType i with
  | nil => exact absurd h.1 not_reaches_nil
  | cons s rules ih =>
    rw [walk_cons]
    cases i with
    | zero =>
      obtain ⟨rfl, hdec⟩ := decidedBy_cons_zero.mp h
      rw [if_pos (.inl hdec), if_pos hdec]
      exact ⟨rfl, Rule.urlAfter_of_decides hdec⟩
    | succ i =>
      obtain ⟨hhalt, hrest⟩ := decidedBy_cons_succ.mp h
      rw [if_neg hhalt, urlAt_cons_succ]
      exact ih _ hrest

theorem walk_outcome_of_undecided (contentType : Option Bytes)
    (h : ¬ ∃ i r, rules.DecidedBy ctx url i r) :
    (walk ctx rules url contentType).outcome = .continue := by
  induction rules generalizing url contentType with
  | nil => rfl
  | cons r rules ih =>
    rw [walk_cons]
    by_cases hhalt : r.Halts ctx url
    · have hdec : ¬ r.Decides ctx url := fun hd => h ⟨0, r, decidedBy_cons_zero.mpr ⟨rfl, hd⟩⟩
      rw [if_pos hhalt, if_neg hdec]
    · rw [if_neg hhalt]
      apply ih
      rintro ⟨i, s, hs⟩
      exact h ⟨i + 1, s, decidedBy_cons_succ.mpr ⟨hhalt, hs⟩⟩

theorem noneFires_cons (hr : ¬ r.Fires ctx url) (h : rules.NoneFires ctx url) :
    NoneFires (r :: rules) ctx url := by
  intro i s hs
  cases i with
  | zero =>
    obtain rfl := reaches_cons_zero.mp hs
    exact hr
  | succ i =>
    have hs := (reaches_cons_succ.mp hs).2
    rw [urlAt_cons_succ]
    rw [Rule.urlAfter_of_not_fires hr] at hs ⊢
    exact h i s hs

theorem lastFired_cons_zero (hr : r.Fires ctx url)
    (h : r.Halts ctx url ∨ rules.NoneFires ctx (r.urlAfter ctx url)) :
    LastFired (r :: rules) ctx url 0 r := by
  refine ⟨reaches_cons_zero.mpr rfl, hr, fun j s hj hs => ?_⟩
  obtain ⟨j, rfl⟩ := Nat.exists_eq_succ_of_ne_zero (by omega : j ≠ 0)
  obtain ⟨hhalt, hs⟩ := reaches_cons_succ.mp hs
  rw [urlAt_cons_succ]
  exact h.resolve_left hhalt j s hs

theorem lastFired_cons_succ (hr : ¬ r.Halts ctx url)
    (h : rules.LastFired ctx (r.urlAfter ctx url) i s) :
    LastFired (r :: rules) ctx url (i + 1) s := by
  refine ⟨reaches_cons_succ.mpr ⟨hr, h.1⟩, by rw [urlAt_cons_succ]; exact h.2.1,
    fun j t hj ht => ?_⟩
  obtain ⟨j, rfl⟩ := Nat.exists_eq_succ_of_ne_zero (by omega : j ≠ 0)
  rw [urlAt_cons_succ]
  exact h.2.2 j t (by omega) (reaches_cons_succ.mp ht).2

/-- The final URL is that of the last rule to fire, whether or not it decides. -/
theorem walk_url (rules : RuleSet) (ctx : Context) (url : Text) (contentType : Option Bytes) :
    (∃ i r, rules.LastFired ctx url i r ∧
      (walk ctx rules url contentType).url = r.urlAfter ctx (rules.urlAt ctx url i)) ∨
    (rules.NoneFires ctx url ∧ (walk ctx rules url contentType).url = url) := by
  induction rules generalizing url contentType with
  | nil => exact .inr ⟨fun i r h => absurd h not_reaches_nil, rfl⟩
  | cons r rules ih =>
    rw [walk_cons]
    by_cases hhalt : r.Halts ctx url
    · rw [if_pos hhalt]
      exact .inl ⟨0, r, lastFired_cons_zero hhalt.fires (.inl hhalt), rfl⟩
    · rw [if_neg hhalt]
      rcases ih (r.urlAfter ctx url) (r.contentTypeAfter ctx url contentType) with
        ⟨i, s, hlast, hurl⟩ | ⟨hnone, hurl⟩
      · refine .inl ⟨i + 1, s, lastFired_cons_succ hhalt hlast, ?_⟩
        rw [hurl, urlAt_cons_succ]
      · rw [hurl]
        by_cases hr : r.Fires ctx url
        · exact .inl ⟨0, r, lastFired_cons_zero hr (.inr hnone), rfl⟩
        · rw [Rule.urlAfter_of_not_fires hr] at hnone ⊢
          exact .inr ⟨noneFires_cons hr hnone, rfl⟩

/-- An evaluation is terminal just when some rule decides it. That rule is the only one, and the
outcome is that of its action at the URL that it sees; the URL is left as it is. An undecided
request goes on with the URL of the last rule to fire, or with its own. -/
theorem evaluate_decision (rules : RuleSet) (ctx : Context) :
    let e := rules.evaluate ctx
    let u := rules.urlAt ctx ctx.url
    (e.outcome.isTerminal = true ↔ ∃ i r, rules.DecidedBy ctx ctx.url i r) ∧
      (∀ i r, rules.DecidedBy ctx ctx.url i r →
        (∀ j s, rules.DecidedBy ctx ctx.url j s → j = i) ∧ e.outcome = r.outcome ctx (u i) ∧
          e.url = u i ∧ e.query = Query.ofUrl? (u i)) ∧
      ((¬ ∃ i r, rules.DecidedBy ctx ctx.url i r) →
        e.outcome = .continue ∧
          ((∃ i r, rules.LastFired ctx ctx.url i r ∧ e.url = r.urlAfter ctx (u i)) ∨
            (rules.NoneFires ctx ctx.url ∧ e.url = ctx.url))) := by
  intro e u
  refine ⟨⟨fun h => ?_, ?_⟩, fun i r h => ?_, fun h => ?_⟩
  · refine Classical.byContradiction fun hnone => ?_
    have hcont : e.outcome = .continue := walk_outcome_of_undecided none hnone
    rw [hcont] at h
    exact absurd h (by decide)
  · rintro ⟨i, r, h⟩
    have hout : e.outcome = r.outcome ctx (u i) := (walk_of_decidedBy none h).1
    rw [hout]
    exact Rule.outcome_isTerminal h.2.action_ne
  · obtain ⟨hout, hurl⟩ := walk_of_decidedBy none h
    exact ⟨fun j s hj => h.index_unique hj, hout, hurl, congrArg Query.ofUrl? hurl⟩
  · exact ⟨walk_outcome_of_undecided none h, walk_url rules ctx ctx.url none⟩

end RuleGate.RuleSet
