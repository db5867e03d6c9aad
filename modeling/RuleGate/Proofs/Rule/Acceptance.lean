import RuleGate.Proofs.Rule.Compilation

/-! # Accepted directives

Exactly the directives of the grammar are accepted whose codes are numerals, and every other text is
refused with its number and the trimmed text. The grammar asks for codes of three digits, and an
accepted directive is in it exactly if all of its codes are.
-/
namespace RuleGate

variable {codes codes' : Text → Prop} {d : Directive} {caseless : Bool} {t : Text}

theorem FlagToken.Valid.of_codes {u : FlagToken} (h : u.Valid codes)
    (hcode : ∀ code, u = .redirect (some code) → codes' code) : u.Valid codes' := by
  cases u with
  | redirect code =>
    cases code with
    | none => trivial
    | some code => exact hcode code rfl
  | contentType value =>
    cases value with
    | none => trivial
    | some value => exact h
  | _ => trivial

theorem Directive.Valid.of_codes (h : d.Valid codes caseless)
    (hcode : ∀ code, .redirect (some code) ∈ d.tokens → codes' code) : d.Valid codes' caseless where
  pattern := h.pattern
  tokens u hu := (h.tokens u hu).of_codes fun code hu' => hcode code (hu' ▸ hu)
  host := h.host

theorem exists_readFrom_iff (ht : Text.trim t = t) :
    (∃ own, d.ReadFrom own t) ↔ d.Spells t ∨ d.SpellsShared t := by
  constructor
  · rintro ⟨own, hread⟩
    cases own with
    | true => exact .inl (Directive.spells_of_readFrom ht hread)
    | false => exact .inr (Directive.spellsShared_of_readFrom ht hread)
  · rintro (hspells | hspells)
    · exact ⟨true, Directive.readFrom_of_spells hspells⟩
    · exact ⟨false, Directive.readFrom_of_spellsShared hspells⟩

/-- A directive of the grammar is read as one that is valid. -/
theorem isDirective_iff (ht : Text.trim t = t) :
    IsDirective codes t ↔
      ∃ d : Directive, ∃ own, d.ReadFrom own t ∧ d.Valid codes (own && d.noCase) := by
  constructor
  · rintro ⟨d, ⟨hspells, hvalid⟩ | ⟨hspells, hvalid⟩⟩
    · exact ⟨d, true, Directive.readFrom_of_spells hspells, hvalid⟩
    · exact ⟨d, false, Directive.readFrom_of_spellsShared hspells, hvalid⟩
  · rintro ⟨d, own, hread, hvalid⟩
    cases own with
    | true => exact ⟨d, .inl ⟨Directive.spells_of_readFrom ht hread, hvalid⟩⟩
    | false => exact ⟨d, .inr ⟨Directive.spellsShared_of_readFrom ht hread, hvalid⟩⟩

/-- Since a text is read in one way only, it is enough to look at the codes that are written. -/
theorem isDirective_iff_and_codes (ht : Text.trim t = t)
    (hcodes : ∀ code, codes' code → codes code) :
    IsDirective codes' t ↔ IsDirective codes t ∧
      ∀ d : Directive, d.Spells t ∨ d.SpellsShared t →
        ∀ code, .redirect (some code) ∈ d.tokens → codes' code := by
  rw [isDirective_iff ht, isDirective_iff ht]
  constructor
  · rintro ⟨d, own, hread, hvalid⟩
    refine ⟨⟨d, own, hread, hvalid.of_codes fun code hcode => hcodes _ (hvalid.tokens _ hcode)⟩, ?_⟩
    intro d' hspells code hcode
    obtain ⟨own', hread'⟩ := (exists_readFrom_iff ht).mpr hspells
    obtain ⟨rfl, rfl⟩ := hread.unique hread'
    exact hvalid.tokens _ hcode
  · rintro ⟨⟨d, own, hread, hvalid⟩, hwritten⟩
    have hspells := (exists_readFrom_iff ht).mp ⟨own, hread⟩
    exact ⟨d, own, hread, hvalid.of_codes (hwritten d hspells)⟩

namespace Rule

variable {line : Nat}

theorem exists_parse_iff :
    (∃ r, parse t line = .ok r) ↔ IsDirective Status.IsNumeral (Text.trim t) := by
  rw [isDirective_iff (Text.trim_trim t)]
  constructor
  · rintro ⟨r, hr⟩
    obtain ⟨d, own, hread, htokens, hdenotes⟩ := ofDirective_eq_ok_iff.mp (parse_eq_ok_iff.mp hr)
    exact ⟨d, own, hread, hdenotes.valid htokens⟩
  · rintro ⟨d, own, hread, hvalid⟩
    obtain ⟨r, hdenotes⟩ := Directive.exists_denotes hvalid (Text.trim t)
    exact ⟨r, parse_eq_ok_iff.mpr (ofDirective_eq_ok_iff.mpr
      ⟨d, own, hread, hvalid.tokens, hdenotes⟩)⟩

/-- The directives of the grammar are those accepted ones whose codes have three digits. Accepted
are all in which numerals stand for codes, and every other text is refused. -/
theorem parse_accepts (t : Text) (line : Nat) :
    (IsDirective Status.IsCode (Text.trim t) ↔ (∃ r, parse t line = .ok r) ∧
      ∀ d : Directive, d.Spells (Text.trim t) ∨ d.SpellsShared (Text.trim t) →
        ∀ code, .redirect (some code) ∈ d.tokens → Status.IsCode code) ∧
    ((∃ r, parse t line = .ok r) ↔ IsDirective Status.IsNumeral (Text.trim t)) ∧
    (¬ IsDirective Status.IsNumeral (Text.trim t) →
      ∃ fault, parse t line = .error ⟨line, Text.trim t, fault⟩) := by
  refine ⟨?_, exists_parse_iff, fun hnot => ?_⟩
  · rw [exists_parse_iff]
    exact isDirective_iff_and_codes (Text.trim_trim t) fun _ => Status.IsCode.isNumeral
  · cases hrule : ofDirective (Text.trim t) with
    | ok r =>
      have haccepted : ∃ r, parse t line = .ok r := ⟨r, parse_eq_ok_iff.mpr hrule⟩
      exact absurd (exists_parse_iff.mp haccepted) hnot
    | error fault =>
      refine ⟨fault, ?_⟩
      rw [parse, hrule]
      rfl

/-- A plus sign before the digits of a code is let through. -/
theorem parse_accepts_plus :
    (∃ r, parse (text "^/a$ /b [R=+301]") 1 = .ok r) ∧
      ¬ IsDirective Status.IsCode (Text.trim (text "^/a$ /b [R=+301]")) := by
  have hspells : Directive.Spells
      ⟨text "^/a$", text "/b", [.redirect (some (text "+301"))], none⟩
      (text "^/a$ /b [R=+301]") :=
    @Directive.Spells.flagged (text "^/a$") (text " ") (text "/b") (text " ") (text "R=+301") _ _
      (by decide) (by decide) (by decide) (by decide) (.token (by decide))
  have htrim := Directive.trim_of_spells hspells
  refine ⟨⟨_, parse_ofWellFormed (by decide +kernel)⟩, fun hdirective => ?_⟩
  rw [htrim] at hdirective
  obtain ⟨-, hcodes⟩ :=
    (isDirective_iff_and_codes htrim fun _ => Status.IsCode.isNumeral).mp hdirective
  have hcode := hcodes _ (.inl hspells) (text "+301") List.mem_cons_self
  exact absurd hcode.length_eq (by decide)

end Rule

end RuleGate
