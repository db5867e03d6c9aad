import RuleGate.Proofs.Rule.Block
import RuleGate.Proofs.Rule.Fields

/-! # Reading directives

A directive without blanks at its ends is read as two fields and what is left after them. What is
read this way is what the directive spells, so no text spells two directives.
-/
namespace RuleGate

namespace Directive

variable {d d' : Directive} {own own' : Bool} {t trailing : Text}

/-- Where the block of a directive stands: in what is left after the fields, which is then `own`
field, in the replacement, or nowhere. -/
inductive Block (d : Directive) : (own : Bool) → (trailing : Text) → Prop where
  | plain (hplain : ∀ inner, d.replacement ≠ Text.inBrackets inner) (htokens : d.tokens = [])
      (hhost : d.host = none) : Block d true []
  | flagged {inner : Text} (hblock : SpellsBlock d.tokens d.host inner) :
      Block d true (Text.inBrackets inner)
  | shared {inner : Text} (hreplacement : d.replacement = Text.inBrackets inner)
      (hblock : SpellsBlock d.tokens d.host inner) : Block d false []

def ReadFrom (d : Directive) (own : Bool) (t : Text) : Prop :=
  ∃ rest tail, Rule.nextField t = some (d.first, rest) ∧
    Rule.nextField rest = some (d.replacement, tail) ∧ d.Block own (Text.trim tail)

theorem Block.unique (h : d.Block own trailing) (h' : d'.Block own' trailing)
    (hfirst : d.first = d'.first) (hreplacement : d.replacement = d'.replacement) :
    d = d' ∧ own = own' := by
  obtain ⟨first, replacement, tokens, host⟩ := d
  obtain ⟨first', replacement', tokens', host'⟩ := d'
  obtain rfl : first = first' := hfirst
  obtain rfl : replacement = replacement' := hreplacement
  suffices hblock : (tokens = tokens' ∧ host = host') ∧ own = own' by
    obtain ⟨⟨rfl, rfl⟩, rfl⟩ := hblock
    exact ⟨rfl, rfl⟩
  generalize htrailing : trailing = trailing' at h'
  cases h with
  | plain hplain htokens hhost =>
    cases h' with
    | plain _ htokens' hhost' => exact ⟨⟨htokens.trans htokens'.symm, hhost.trans hhost'.symm⟩, rfl⟩
    | flagged _ => exact absurd htrailing.symm (Text.inBrackets_ne_nil _)
    | shared hshared _ => exact absurd hshared (hplain _)
  | flagged hblock =>
    cases h' with
    | flagged hblock' =>
      obtain rfl := Text.inBrackets_injective htrailing
      exact ⟨hblock.unique hblock', rfl⟩
    | _ => exact absurd htrailing (Text.inBrackets_ne_nil _)
  | shared hshared hblock =>
    cases h' with
    | plain hplain _ _ => exact absurd hshared (hplain _)
    | flagged _ => exact absurd htrailing.symm (Text.inBrackets_ne_nil _)
    | shared hshared' hblock' =>
      obtain rfl := Text.inBrackets_injective (hshared.symm.trans hshared')
      exact ⟨hblock.unique hblock', rfl⟩

theorem ReadFrom.unique (h : d.ReadFrom own t) (h' : d'.ReadFrom own' t) : d = d' ∧ own = own' := by
  obtain ⟨rest, tail, hfirst, hsecond, hblock⟩ := h
  obtain ⟨rest', tail', hfirst', hsecond', hblock'⟩ := h'
  obtain ⟨hfirst, rfl⟩ := Prod.mk.inj (Option.some.inj (hfirst.symm.trans hfirst'))
  obtain ⟨hreplacement, rfl⟩ := Prod.mk.inj (Option.some.inj (hsecond.symm.trans hsecond'))
  exact hblock.unique hblock' hfirst hreplacement

/-- What a text is read as is what it spells, with the block in a field of its own or not. -/
theorem readFrom_of_spells (h : d.Spells t) : d.ReadFrom true t := by
  cases h with
  | @plain first gap replacement hfirst hgap hreplacement hplain =>
    obtain ⟨rest, hrest, htail⟩ := Rule.exists_fields_bare hfirst hgap hreplacement
    exact ⟨rest, [], hrest, htail, .plain hplain rfl rfl⟩
  | @flagged first gap replacement gap' inner tokens host hfirst hgap hreplacement hgap' hblock =>
    obtain ⟨rest, tail, hrest, htail, htrim⟩ :=
      Rule.exists_fields_own hfirst hgap hreplacement hgap' inner
    refine ⟨rest, tail, hrest, htail, ?_⟩
    rw [htrim]
    exact .flagged hblock

theorem readFrom_of_spellsShared (h : d.SpellsShared t) : d.ReadFrom false t := by
  cases h with
  | @shared first gap inner tokens host hfirst hgap hreplacement hblock =>
    obtain ⟨rest, hrest, htail⟩ := Rule.exists_fields_bare hfirst hgap hreplacement
    exact ⟨rest, [], hrest, htail, .shared rfl hblock⟩

theorem spells_of_readFrom (ht : Text.trim t = t) (h : d.ReadFrom true t) : d.Spells t := by
  obtain ⟨first, replacement, tokens, host⟩ := d
  obtain ⟨rest, tail, hfirst, hsecond, hblock⟩ := h
  obtain ⟨hfield, hfield', gap, hgap, ⟨rfl, rfl⟩ | ⟨gap', hgap', htail, htext⟩⟩ :=
    Rule.exists_of_nextField_nextField ht hfirst hsecond
  · rw [Text.trim_of_isBlanks (List.forall_mem_nil _)] at hblock
    generalize htrailing : ([] : Text) = trailing at hblock
    cases hblock with
    | plain hplain htokens hhost =>
      obtain rfl : tokens = [] := htokens
      obtain rfl : host = none := hhost
      exact .plain hfield hgap hfield' hplain
    | flagged _ => exact absurd htrailing.symm (Text.inBrackets_ne_nil _)
  · generalize Text.trim tail = trailing at hblock htail htext
    cases hblock with
    | plain _ _ _ => exact absurd rfl htail
    | flagged hblock =>
      rw [htext]
      exact .flagged hfield hgap hfield' hgap' hblock

theorem spellsShared_of_readFrom (ht : Text.trim t = t) (h : d.ReadFrom false t) :
    d.SpellsShared t := by
  obtain ⟨first, replacement, tokens, host⟩ := d
  obtain ⟨rest, tail, hfirst, hsecond, hblock⟩ := h
  obtain ⟨hfield, hfield', gap, hgap, ⟨rfl, rfl⟩ | ⟨gap', hgap', htail, htext⟩⟩ :=
    Rule.exists_of_nextField_nextField ht hfirst hsecond
  · cases hblock with
    | shared hreplacement hblock =>
      obtain rfl : replacement = _ := hreplacement
      exact .shared hfield hgap hfield' hblock
  · generalize Text.trim tail = trailing at hblock htail
    cases hblock with
    | shared _ _ => exact absurd rfl htail

theorem trim_of_spells (h : d.Spells t) : Text.trim t = t := by
  cases h with
  | plain hfirst hgap hreplacement _ =>
    exact strip_append_append (Text.trim_of_isField hfirst) (Text.trim_of_isField hreplacement)
      hfirst.1 hreplacement.1 _
  | @flagged first gap replacement gap' inner tokens host hfirst hgap hreplacement hgap' _ =>
    have hends := strip_append_append (Text.trim_of_isField hfirst) (Text.trim_inBrackets inner)
      hfirst.1 (Text.inBrackets_ne_nil inner) (gap ++ replacement ++ gap')
    simpa only [Text.trim_eq_strip, List.append_assoc] using hends

end Directive

end RuleGate
