import Mathlib.Data.List.TakeWhile
import RuleGate.Proofs.Result
import RuleGate.Rule

/-! # The fields of a directive

A directive is read in two steps: the flags from the block in its last field, and with them the
rule from the other two. The replacement is a field as it is written, so there are no blanks in it.
-/
namespace RuleGate.Rule

/-- The flags of a directive with a replacement and what follows it. -/
def flagsOf (replacement trailing : Text) : Except RuleFault Flags :=
  if trailing.isEmpty then
    match bracketed? replacement with
    | some block => Flags.parse block
    | none => .ok {}
  else
    match bracketed? trailing with
    | some block => Flags.parse block
    | none => .error (.unknownFlag trailing)

def ofFlags (directive first replacement trailing : Text) (flags : Flags) :
    Except RuleFault Rule := do
  let (inverted, source) := inversion first
  let some pattern := Pattern.parse? (flags.noCase && !trailing.isEmpty) source
    | throw (.invalidPattern source)
  let host ← match flags.host with
    | none => pure none
    | some source =>
      match Pattern.parse? false source with
      | some host => pure (some host)
      | none => throw (.invalidHostPattern source)
  return {
    directive, pattern, replacement, inverted, last := flags.last, action := flags.action,
    contentType := flags.contentType, host }

def ofWellFormed (directive : String)
    (h : (parse (text directive) 1).toOption.isSome = true) : Rule :=
  (parse (text directive) 1).toOption.get h

theorem parse_ofWellFormed {directive : String}
    (h : (parse (text directive) 1).toOption.isSome = true) :
    parse (text directive) 1 = .ok (ofWellFormed directive h) := by
  unfold ofWellFormed
  generalize parse (text directive) 1 = result at h ⊢
  cases result with
  | error fault => exact absurd h Bool.false_ne_true
  | ok r => rfl

variable {directive first replacement rest tail trailing field t : Text} {flags : Flags} {r : Rule}

theorem ofDirective_of_fields (hfirst : nextField directive = some (first, rest))
    (hsecond : nextField rest = some (replacement, tail)) :
    ofDirective directive =
      flagsOf replacement (Text.trim tail) >>=
        ofFlags directive first replacement (Text.trim tail) := by
  unfold ofDirective flagsOf
  simp only [hfirst, hsecond]
  by_cases h : (Text.trim tail).isEmpty = true
  · rw [if_pos h, if_pos h]
    cases bracketed? replacement <;> rfl
  · rw [if_neg h, if_neg h]
    cases bracketed? (Text.trim tail) <;> rfl

theorem ofFlags_eq_ok_iff :
    ofFlags directive first replacement trailing flags = .ok r ↔
      ∃ pattern host,
        Pattern.parse? (flags.noCase && !trailing.isEmpty) (inversion first).2 = some pattern ∧
        flags.host.map (Pattern.parse? false) = host.map some ∧
        r = { directive, pattern, replacement, inverted := (inversion first).1, last := flags.last,
              action := flags.action, contentType := flags.contentType, host } := by
  unfold ofFlags
  dsimp only
  constructor
  · intro h
    split at h
    · rename_i pattern hpattern
      split at h
      · exact ⟨pattern, none, hpattern, by simp only [*, Option.map_none], (Except.ok.inj h).symm⟩
      · split at h
        · rename_i host hhost
          exact ⟨pattern, some host, hpattern, by simp only [*, Option.map_some],
            (Except.ok.inj h).symm⟩
        · exact absurd h nofun
    · exact absurd h nofun
  · rintro ⟨pattern, host, hpattern, hhost, rfl⟩
    rw [hpattern]
    cases hsource : flags.host with
    | none =>
      rw [hsource] at hhost
      rw [Option.map_eq_none_iff.mp hhost.symm]
      rfl
    | some source =>
      rw [hsource] at hhost
      obtain ⟨host, rfl, hparse⟩ := Option.map_eq_some_iff.mp hhost.symm
      dsimp only
      rw [← hparse]
      rfl

theorem replacement_of_ofFlags (h : ofFlags directive first replacement trailing flags = .ok r) :
    r.replacement = replacement := by
  obtain ⟨pattern, host, -, -, rfl⟩ := ofFlags_eq_ok_iff.mp h
  rfl

theorem replacement_of_ofDirective (h : ofDirective directive = .ok r) :
    ∃ first rest tail, nextField directive = some (first, rest) ∧
      nextField rest = some (r.replacement, tail) := by
  cases hfirst : nextField directive with
  | none =>
    unfold ofDirective at h
    rw [hfirst] at h
    exact absurd h nofun
  | some fields =>
    obtain ⟨first, rest⟩ := fields
    cases hsecond : nextField rest with
    | none =>
      unfold ofDirective at h
      simp only [hfirst, hsecond] at h
      exact absurd h nofun
    | some fields =>
      obtain ⟨replacement, tail⟩ := fields
      rw [ofDirective_of_fields hfirst hsecond] at h
      obtain ⟨flags, -, hrule⟩ := bind_eq_ok.mp h
      exact ⟨first, rest, tail, rfl, by rw [hsecond, replacement_of_ofFlags hrule]⟩

theorem isBlank_of_mem_field (h : nextField t = some (field, rest)) {c : Char} (hc : c ∈ field) :
    Text.isBlank c = false := by
  unfold nextField at h
  dsimp only at h
  split at h
  · exact absurd h nofun
  · obtain ⟨rfl, -⟩ := Prod.mk.inj (Option.some.inj h)
    simpa using List.mem_takeWhile_imp hc

/-- The number of a directive matters to its errors only. -/
theorem parse_eq_ok_iff {line : Nat} :
    parse directive line = .ok r ↔ ofDirective (Text.trim directive) = .ok r := mapError_eq_ok

theorem isBlank_of_mem_replacement {line : Nat} (h : parse directive line = .ok r) {c : Char}
    (hc : c ∈ r.replacement) : Text.isBlank c = false := by
  obtain ⟨first, rest, tail, -, hsecond⟩ := replacement_of_ofDirective (parse_eq_ok_iff.mp h)
  exact isBlank_of_mem_field hsecond hc

end RuleGate.Rule
