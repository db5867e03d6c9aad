import Mathlib.Data.List.Basic
import RuleGate.Proofs.Rule.Directive
import RuleGate.Proofs.Rule.Grammar

/-! # Cutting a directive into fields

A field ends at the first blank. A directive without blanks at its ends is therefore a first field,
a gap, a second field and, after another gap, whatever is left.
-/
namespace RuleGate

namespace Text

variable {t u : Text} {c : Char}

theorem IsGap.isBlank_of_head? (h : IsGap t) (u : Text) (d : Char)
    (hd : (t ++ u).head? = some d) : isBlank d = true := by
  rw [List.head?_append_of_ne_nil _ h.1] at hd
  exact h.2 d (List.mem_of_mem_head? hd)

theorem inBrackets_ne_nil (inner : Text) : inBrackets inner ≠ [] := List.cons_ne_nil _ _

theorem inBrackets_injective : Function.Injective inBrackets := fun _ _ h =>
  List.append_cancel_right (List.cons.inj h).2

theorem trim_inBrackets (inner : Text) : trim (inBrackets inner) = inBrackets inner := by
  refine strip_eq_self (fun c hc => ?_) fun c hc => ?_
  · obtain rfl := Option.some.inj hc
    decide
  · unfold inBrackets at hc
    rw [List.getLast?_append_of_ne_nil _ (by simp)] at hc
    obtain rfl := Option.some.inj hc
    decide

end Text

namespace Rule

variable {t first replacement rest tail gap gap' field inner : Text}

theorem bracketed?_eq_some_iff : bracketed? t = some inner ↔ t = Text.inBrackets inner := by
  unfold bracketed? Text.inBrackets
  split
  · rw [Text.dropLast?_eq_some_iff, List.cons_append, List.cons_inj_right]
  · rename_i hne
    exact ⟨nofun, fun h => absurd h (hne _)⟩

theorem bracketed?_eq_none_iff : bracketed? t = none ↔ ∀ inner, t ≠ Text.inBrackets inner := by
  rw [Option.eq_none_iff_forall_ne_some]
  exact forall_congr' fun inner => not_congr bracketed?_eq_some_iff

theorem nextField_of_isField (hgap : Text.IsBlanks gap) (hfield : Text.IsField field)
    (hrest : ∀ c, rest.head? = some c → Text.isBlank c = true) :
    nextField (gap ++ field ++ rest) = some (field, rest) := by
  have hstart : Text.trimStart (gap ++ field ++ rest) = field ++ rest := by
    obtain ⟨c, u, rfl⟩ := List.exists_cons_of_ne_nil hfield.1
    unfold Text.trimStart
    rw [List.append_assoc, List.dropWhile_append_of_pos hgap, List.cons_append,
      List.dropWhile_cons_of_neg (by simp [hfield.2 c List.mem_cons_self])]
  have hinside : ∀ c ∈ field, (!Text.isBlank c) = true := fun c hc => by simp [hfield.2 c hc]
  have hstop : rest.takeWhile (!Text.isBlank ·) = [] ∧ rest.dropWhile (!Text.isBlank ·) = rest := by
    cases rest with
    | nil => exact ⟨rfl, rfl⟩
    | cons c rest =>
      have hc : ¬ (!Text.isBlank c) = true := by simp [hrest c rfl]
      exact ⟨List.takeWhile_cons_of_neg hc, List.dropWhile_cons_of_neg hc⟩
  unfold nextField
  dsimp only
  rw [hstart, if_neg (by simp [hfield.1]), List.takeWhile_append_of_pos hinside,
    List.dropWhile_append_of_pos hinside, hstop.1, hstop.2, List.append_nil]

theorem nextField_of_isField_end (hgap : Text.IsBlanks gap) (hfield : Text.IsField field) :
    nextField (gap ++ field) = some (field, []) := by
  have hend (c : Char) (hc : ([] : Text).head? = some c) : Text.isBlank c = true := nomatch hc
  rw [← nextField_of_isField hgap hfield hend, List.append_nil]

theorem exists_fields_own (hfirst : Text.IsField first) (hgap : Text.IsGap gap)
    (hreplacement : Text.IsField replacement) (hgap' : Text.IsGap gap') (inner : Text) :
    ∃ rest tail, nextField (first ++ gap ++ replacement ++ gap' ++ Text.inBrackets inner) =
        some (first, rest) ∧
      nextField rest = some (replacement, tail) ∧ Text.trim tail = Text.inBrackets inner := by
  refine ⟨gap ++ replacement ++ (gap' ++ Text.inBrackets inner), gap' ++ Text.inBrackets inner,
    ?_, ?_, ?_⟩
  · simpa only [List.nil_append, List.append_assoc] using
      nextField_of_isField (List.forall_mem_nil _) hfirst (hgap.isBlank_of_head? _)
  · exact nextField_of_isField hgap.2 hreplacement (hgap'.isBlank_of_head? _)
  · rw [Text.trim_append_of_isBlanks hgap'.2, Text.trim_inBrackets]

theorem exists_fields_bare (hfirst : Text.IsField first) (hgap : Text.IsGap gap)
    (hreplacement : Text.IsField replacement) :
    ∃ rest, nextField (first ++ gap ++ replacement) = some (first, rest) ∧
      nextField rest = some (replacement, []) := by
  refine ⟨gap ++ replacement, ?_, nextField_of_isField_end hgap.2 hreplacement⟩
  rw [List.append_assoc]
  exact nextField_of_isField (List.forall_mem_nil _) hfirst (hgap.isBlank_of_head? _)

theorem exists_of_nextField (h : nextField t = some (field, rest)) :
    ∃ gap, t = gap ++ field ++ rest ∧ Text.IsBlanks gap ∧ Text.IsField field ∧
      ∀ c, rest.head? = some c → Text.isBlank c = true := by
  unfold nextField at h
  dsimp only at h
  split at h
  · exact absurd h nofun
  · rename_i hne
    obtain ⟨rfl, rfl⟩ := Prod.mk.inj (Option.some.inj h)
    refine ⟨t.takeWhile Text.isBlank, ?_, fun c hc => List.mem_takeWhile_imp hc, ⟨?_, ?_⟩, ?_⟩
    · rw [List.append_assoc, List.takeWhile_append_dropWhile]
      exact List.takeWhile_append_dropWhile.symm
    · have hhead := List.head?_dropWhile_not Text.isBlank t
      unfold Text.trimStart at hne ⊢
      have hstart : t.dropWhile Text.isBlank ≠ [] := by simpa using hne
      obtain ⟨c, u, hu⟩ := List.exists_cons_of_ne_nil hstart
      rw [hu] at hhead ⊢
      rw [List.takeWhile_cons_of_pos (by simpa using hhead)]
      exact List.cons_ne_nil _ _
    · intro c hc
      simpa using List.mem_takeWhile_imp hc
    · intro c hc
      have hhead := List.head?_dropWhile_not (!Text.isBlank ·) (Text.trimStart t)
      rw [hc] at hhead
      simpa using hhead

/-- The two fields of a directive that has no blanks at its ends, and what follows them. -/
theorem exists_of_nextField_nextField (ht : Text.trim t = t)
    (hfirst : nextField t = some (first, rest))
    (hsecond : nextField rest = some (replacement, tail)) :
    Text.IsField first ∧ Text.IsField replacement ∧ ∃ gap, Text.IsGap gap ∧
      ((tail = [] ∧ t = first ++ gap ++ replacement) ∨
        ∃ gap', Text.IsGap gap' ∧ Text.trim tail ≠ [] ∧
          t = first ++ gap ++ replacement ++ gap' ++ Text.trim tail) := by
  obtain ⟨lead, hlead, hblank, hfield, hstop⟩ := exists_of_nextField hfirst
  obtain ⟨gap, hgap, hblanks, hfield', hstop'⟩ := exists_of_nextField hsecond
  have hends : strip Text.isBlank t = t := ht
  have hnil : lead = [] := by
    cases lead with
    | nil => rfl
    | cons c lead =>
      have hhead : (strip Text.isBlank t).head? = some c := by rw [hends, hlead]; rfl
      have hc := head?_strip hhead
      rw [hblank c List.mem_cons_self] at hc
      exact absurd hc nofun
  have hne : gap ≠ [] := by
    rintro rfl
    obtain ⟨c, u, hu⟩ := List.exists_cons_of_ne_nil hfield'.1
    have hc := hstop c (by rw [hgap, hu]; rfl)
    rw [hfield'.2 c (by rw [hu]; exact List.mem_cons_self)] at hc
    exact absurd hc nofun
  have htext : t = first ++ gap ++ replacement ++ tail := by
    rw [hlead, hnil, hgap]
    simp only [List.nil_append, List.append_assoc]
  refine ⟨hfield, hfield', gap, ⟨hne, hblanks⟩, ?_⟩
  by_cases htail : tail = []
  · subst htail
    exact .inl ⟨rfl, by rw [htext, List.append_nil]⟩
  · have hlast (c : Char) (hc : tail.getLast? = some c) : Text.isBlank c = false := by
      rw [← List.getLast?_append_of_ne_nil _ htail, ← htext, ← hends] at hc
      exact getLast?_strip hc
    obtain ⟨gap', hgap', htrim, hsplit⟩ := Text.exists_eq_gap_append_trim htail hstop' hlast
    exact .inr ⟨gap', hgap', htrim, by rw [List.append_assoc, ← hsplit, htext]⟩

end Rule

end RuleGate
