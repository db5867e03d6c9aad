import RuleGate.Proofs.Rule.Reading

/-! # Compiling directives

The place of the block decides the flags, and these decide the rule. A text compiles exactly if it
is read as a directive whose parts are valid, and then to the rule that the directive denotes.
-/
namespace RuleGate

theorem Pattern.source_of_parse? {caseless : Bool} {source : Text} {p : Pattern}
    (h : Pattern.parse? caseless source = some p) : p.source = source ∧ p.caseless = caseless := by
  obtain ⟨⟨expr, groups, names⟩, -, rfl⟩ := Option.map_eq_some_iff.mp h
  exact ⟨rfl, rfl⟩

namespace Directive

/-- The rule that a directive stands for, with or without regard to case. -/
structure Denotes (d : Directive) (caseless : Bool) (t : Text) (r : Rule) : Prop where
  directive : r.directive = t
  inverted : r.inverted = decide (d.first.head? = some '!')
  pattern : Pattern.parse? caseless d.source = some r.pattern
  replacement : r.replacement = d.replacement
  last : r.last = decide (.last ∈ d.tokens)
  action : r.action = d.action
  contentType : r.contentType = d.contentType?.map Utf8.encode
  host : d.host.map (Pattern.parse? false) = r.host.map some

variable {d : Directive} {own caseless : Bool} {t first replacement trailing : Text} {r : Rule}
  {flags : Flags} {codes : Text → Prop}

theorem inversion_first (d : Directive) :
    Rule.inversion d.first = (decide (d.first.head? = some '!'), d.source) := by
  obtain ⟨first, replacement, tokens, host⟩ := d
  change Rule.inversion first = (decide (first.head? = some '!'),
    if first.head? = some '!' then first.tail else first)
  by_cases h : first.head? = some '!'
  · obtain ⟨u, rfl⟩ := List.head?_eq_some_iff.mp h
    rfl
  · rw [if_neg h, decide_eq_false h, Rule.inversion]
    rintro u rfl
    exact h rfl

theorem action_addAll (d : Directive) :
    (({} : Flags).addAll d.tokens d.host).action = d.action := by
  simp only [Flags.addAll_eq, Flags.action, decide_eq_true_eq]
  rfl

/-- `NC` has no effect in a block that is the replacement as well. -/
theorem Block.noCase_eq (h : d.Block own trailing) :
    ((({} : Flags).addAll d.tokens d.host).noCase && !trailing.isEmpty) = (own && d.noCase) := by
  rw [Flags.addAll_eq]
  cases h with
  | plain _ htokens _ => simp [noCase, htokens]
  | flagged _ => simp [noCase, Text.inBrackets]
  | shared _ _ => simp

theorem Block.flagsOf_eq (h : d.Block own trailing)
    (htokens : ∀ t ∈ d.tokens, t.Valid Status.IsNumeral) :
    Rule.flagsOf d.replacement trailing = .ok (({} : Flags).addAll d.tokens d.host) := by
  cases h with
  | plain hplain hnil hhost =>
    rw [Rule.flagsOf, if_pos (by simp), Rule.bracketed?_eq_none_iff.mpr hplain, hnil, hhost]
    rfl
  | flagged hblock =>
    rw [Rule.flagsOf, if_neg (by simp [Text.inBrackets]), Rule.bracketed?_eq_some_iff.mpr rfl]
    exact Flags.parse_eq_ok_iff.mpr ⟨_, _, hblock, htokens, rfl⟩
  | shared hshared hblock =>
    rw [Rule.flagsOf, if_pos (by simp), Rule.bracketed?_eq_some_iff.mpr hshared]
    exact Flags.parse_eq_ok_iff.mpr ⟨_, _, hblock, htokens, rfl⟩

theorem exists_of_flagsOf (first : Text) (h : Rule.flagsOf replacement trailing = .ok flags) :
    ∃ d : Directive, ∃ own, d.first = first ∧ d.replacement = replacement ∧ d.Block own trailing ∧
      (∀ t ∈ d.tokens, t.Valid Status.IsNumeral) ∧
        flags = ({} : Flags).addAll d.tokens d.host := by
  unfold Rule.flagsOf at h
  split at h
  · rename_i hempty
    obtain rfl := List.isEmpty_iff.mp hempty
    cases hbracketed : Rule.bracketed? replacement with
    | none =>
      rw [hbracketed] at h
      obtain rfl := Except.ok.inj h
      exact ⟨⟨first, replacement, [], none⟩, true, rfl, rfl,
        .plain (Rule.bracketed?_eq_none_iff.mp hbracketed) rfl rfl, nofun, rfl⟩
    | some inner =>
      rw [hbracketed] at h
      obtain ⟨tokens, host, hblock, htokens, rfl⟩ := Flags.parse_eq_ok_iff.mp h
      exact ⟨⟨first, replacement, tokens, host⟩, false, rfl, rfl,
        .shared (Rule.bracketed?_eq_some_iff.mp hbracketed) hblock, htokens, rfl⟩
  · cases hbracketed : Rule.bracketed? trailing with
    | none =>
      rw [hbracketed] at h
      exact absurd h nofun
    | some inner =>
      rw [hbracketed] at h
      obtain ⟨tokens, host, hblock, htokens, rfl⟩ := Flags.parse_eq_ok_iff.mp h
      obtain rfl := Rule.bracketed?_eq_some_iff.mp hbracketed
      exact ⟨⟨first, replacement, tokens, host⟩, true, rfl, rfl, .flagged hblock, htokens, rfl⟩

/-- With its flags known, a directive compiles to the rule that it denotes. -/
theorem Block.ofFlags_eq_ok_iff (h : d.Block own trailing) :
    Rule.ofFlags t d.first d.replacement trailing (({} : Flags).addAll d.tokens d.host) = .ok r ↔
      d.Denotes (own && d.noCase) t r := by
  rw [Rule.ofFlags_eq_ok_iff, inversion_first, h.noCase_eq, action_addAll, Flags.addAll_eq]
  constructor
  · rintro ⟨pattern, host, hpattern, hhost, rfl⟩
    exact ⟨rfl, rfl, hpattern, rfl, rfl, rfl, rfl, hhost⟩
  · rintro ⟨hdirective, hinverted, hpattern, hreplacement, hlast, haction, hcontent, hhost⟩
    refine ⟨r.pattern, r.host, hpattern, hhost, ?_⟩
    obtain ⟨directive, pattern, replacement, inverted, last, action, contentType, host⟩ := r
    dsimp only at hdirective hinverted hreplacement hlast haction hcontent
    rw [hdirective, hinverted, hreplacement, hlast, haction, hcontent]
    rfl

theorem exists_denotes (h : d.Valid codes caseless) (t : Text) : ∃ r, d.Denotes caseless t r := by
  obtain ⟨pattern, hpattern⟩ := Option.isSome_iff_exists.mp h.pattern
  have hhost : ∃ host : Option Pattern, d.host.map (Pattern.parse? false) = host.map some := by
    cases hfilter : d.host with
    | none => exact ⟨none, rfl⟩
    | some filter =>
      obtain ⟨host, hhost⟩ := Option.isSome_iff_exists.mp (h.host filter hfilter)
      exact ⟨some host, congrArg some hhost⟩
  obtain ⟨host, hhost⟩ := hhost
  exact ⟨⟨t, pattern, d.replacement, _, _, d.action, _, host⟩,
    rfl, rfl, hpattern, rfl, rfl, rfl, rfl, hhost⟩

theorem Denotes.exists_host (h : d.Denotes caseless t r) {filter : Text}
    (hfilter : d.host = some filter) :
    ∃ host, r.host = some host ∧ Pattern.parse? false filter = some host := by
  have hhost := h.host
  rw [hfilter] at hhost
  obtain ⟨host, hr, hparse⟩ := Option.map_eq_some_iff.mp hhost.symm
  exact ⟨host, hr, hparse.symm⟩

theorem Denotes.valid (h : d.Denotes caseless t r) (htokens : ∀ t ∈ d.tokens, t.Valid codes) :
    d.Valid codes caseless where
  pattern := by
    rw [h.pattern]
    rfl
  tokens := htokens
  host filter hfilter := by
    obtain ⟨host, -, hparse⟩ := h.exists_host hfilter
    rw [hparse]
    rfl

theorem Denotes.map_source_host (h : d.Denotes caseless t r) :
    r.host.map Pattern.source = d.host := by
  cases hfilter : d.host with
  | none =>
    have hhost := h.host
    rw [hfilter] at hhost
    rw [Option.map_eq_none_iff.mp hhost.symm]
    rfl
  | some filter =>
    obtain ⟨host, hr, hparse⟩ := h.exists_host hfilter
    rw [hr, Option.map_some, (Pattern.source_of_parse? hparse).1]

def moved : Directive where
  first := text "!^(?-i:/docs/)$"
  replacement := text "/pages"
  tokens := [.noCase, .redirect (some (text "302")), .blank,
    .contentType (some (text " text/html")), .redirect none]
  host := some (text "^h{1,2}[a-z]$")

theorem spellsBlock_moved : SpellsBlock moved.tokens moved.host
    (text " NC ,R=302,, T= text/html ,R , H= ^h{1,2}[a-z]$ ") := by
  have hhost : SpellsBlock [] moved.host (text " H= ^h{1,2}[a-z]$ ") :=
    @SpellsBlock.host _ (text " ^h{1,2}[a-z]$ ") (by decide)
  have hblock : SpellsBlock moved.tokens moved.host (text " NC " ++ ',' :: (text "R=302" ++
      ',' :: ([] ++ ',' :: (text " T= text/html " ++ ',' :: (text "R " ++
        ',' :: text " H= ^h{1,2}[a-z]$ "))))) :=
    .cons (by decide) (.cons (by decide) (.cons (by decide) (.cons (by decide)
      (.cons (by decide) hhost))))
  exact hblock

theorem spells_moved : moved.Spells (text
    "!^(?-i:/docs/)$\u2003/pages \t[ NC ,R=302,, T= text/html ,R , H= ^h{1,2}[a-z]$ ]") := by
  have htext : text
      "!^(?-i:/docs/)$\u2003/pages \t[ NC ,R=302,, T= text/html ,R , H= ^h{1,2}[a-z]$ ]" =
      moved.first ++ text "\u2003" ++ moved.replacement ++ text " \t" ++
        Text.inBrackets (text " NC ,R=302,, T= text/html ,R , H= ^h{1,2}[a-z]$ ") := by decide
  rw [htext]
  exact .flagged (by decide) (by decide) (by decide) (by decide) spellsBlock_moved

theorem valid_moved : moved.Valid Status.IsNumeral moved.noCase where
  pattern := by decide +kernel
  tokens u hu := by
    have hcode : Status.IsNumeral (text "302") :=
      ⟨by decide, by decide, by decide, by decide⟩
    simp only [moved, List.mem_cons, List.not_mem_nil, or_false] at hu
    rcases hu with rfl | rfl | rfl | rfl | rfl
    · trivial
    · exact hcode
    · trivial
    · exact (by decide +kernel : isFieldValue (Utf8.encode (Text.trim (text " text/html"))) = true)
    · trivial
  host filter hfilter := by
    obtain rfl := Option.some.inj hfilter
    decide +kernel

end Directive

namespace Rule

variable {t lead trail : Text} {r : Rule} {d : Directive}

theorem ofDirective_eq_ok_iff :
    ofDirective t = .ok r ↔
      ∃ d : Directive, ∃ own, d.ReadFrom own t ∧ (∀ t ∈ d.tokens, t.Valid Status.IsNumeral) ∧
        d.Denotes (own && d.noCase) t r := by
  constructor
  · intro h
    obtain ⟨first, rest, tail, hfirst, hsecond⟩ := replacement_of_ofDirective h
    rw [ofDirective_of_fields hfirst hsecond] at h
    obtain ⟨flags, hflags, hrule⟩ := bind_eq_ok.mp h
    obtain ⟨d, own, rfl, hreplacement, hblock, htokens, rfl⟩ :=
      Directive.exists_of_flagsOf first hflags
    rw [← hreplacement] at hsecond hrule
    exact ⟨d, own, ⟨rest, tail, hfirst, hsecond, hblock⟩, htokens,
      hblock.ofFlags_eq_ok_iff.mp hrule⟩
  · rintro ⟨d, own, ⟨rest, tail, hfirst, hsecond, hblock⟩, htokens, hdenotes⟩
    rw [ofDirective_of_fields hfirst hsecond, hblock.flagsOf_eq htokens]
    exact hblock.ofFlags_eq_ok_iff.mpr hdenotes

/-- A directive with valid parts compiles to the rule that it denotes, whichever blanks stand around
it. -/
theorem parse_of_spells (hspells : d.Spells t) (hvalid : d.Valid Status.IsNumeral d.noCase)
    (hlead : Text.IsBlanks lead) (htrail : Text.IsBlanks trail) (line : Nat) :
    ∃ r, parse (lead ++ t ++ trail) line = .ok r ∧ d.Denotes d.noCase t r ∧
      r.pattern.source = d.source ∧ r.pattern.caseless = d.noCase ∧
      r.host.map Pattern.source = d.host := by
  obtain ⟨r, hdenotes⟩ := Directive.exists_denotes hvalid t
  obtain ⟨hsource, hcaseless⟩ := Pattern.source_of_parse? hdenotes.pattern
  have htrim : Text.trim (lead ++ t ++ trail) = t := by
    rw [Text.trim_append_append hlead htrail, Directive.trim_of_spells hspells]
  refine ⟨r, ?_, hdenotes, hsource, hcaseless, hdenotes.map_source_host⟩
  rw [parse_eq_ok_iff, htrim, ofDirective_eq_ok_iff]
  exact ⟨d, true, Directive.readFrom_of_spells hspells, hvalid.tokens, hdenotes⟩

theorem parse_of_spells_moved :
    ∃ r, parse (text "\t " ++ text
        "!^(?-i:/docs/)$\u2003/pages \t[ NC ,R=302,, T= text/html ,R , H= ^h{1,2}[a-z]$ ]" ++
        text "\u2003") 7 = .ok r ∧
      r.pattern.source = text "^(?-i:/docs/)$" ∧ r.pattern.caseless = true ∧
      r.inverted = true ∧ r.last = false ∧ r.replacement = text "/pages" ∧
      r.action = .redirect .movedPermanently ∧
      r.contentType = some (Utf8.encode (text "text/html")) ∧
      r.host.map Pattern.source = some (text "^h{1,2}[a-z]$") := by
  obtain ⟨r, hr, hdenotes, hsource, hcaseless, hhost⟩ :=
    parse_of_spells Directive.spells_moved Directive.valid_moved
      (show Text.IsBlanks (text "\t ") by decide) (show Text.IsBlanks (text "\u2003") by decide) 7
  refine ⟨r, hr, hsource.trans (by decide), hcaseless.trans (by decide), ?_, ?_, ?_, ?_, ?_, hhost⟩
  · exact hdenotes.inverted.trans (by decide)
  · exact hdenotes.last.trans (by decide)
  · exact hdenotes.replacement
  · exact hdenotes.action.trans (by decide)
  · exact hdenotes.contentType.trans (by decide)

end Rule

end RuleGate
