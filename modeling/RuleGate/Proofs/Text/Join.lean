import Mathlib.Data.List.Flatten
import RuleGate.Proofs.Text.Strip
import RuleGate.Proofs.Text.Utf8

/-! # Joined lists

Pieces are joined with a separator between neighbours. With a last piece behind them, every piece
has its separator, so the join is that of the pieces with their separators, one by one.
-/
namespace RuleGate

section Intercalate

variable {α : Type} {sep p : List α} {ps : List (List α)}

theorem intercalate_concat (sep : List α) (ps : List (List α)) (p : List α) :
    List.intercalate sep (ps ++ [p]) = ps.flatMap (· ++ sep) ++ p := by
  induction ps with
  | nil => simp
  | cons q qs ih =>
    cases qs with
    | nil => simp [List.intercalate_cons_cons]
    | cons r rs =>
      calc List.intercalate sep (q :: r :: rs ++ [p])
          = q ++ sep ++ List.intercalate sep (r :: rs ++ [p]) := List.intercalate_cons_cons
        _ = (q :: r :: rs).flatMap (· ++ sep) ++ p := by
          rw [ih, ← List.append_assoc]
          rfl

theorem intercalate_concat_of_ne_nil (hne : ps ≠ []) (sep p : List α) :
    List.intercalate sep (ps ++ [p]) = List.intercalate sep ps ++ sep ++ p := by
  obtain ⟨qs, q, rfl⟩ := (List.eq_nil_or_concat' ps).resolve_left hne
  rw [intercalate_concat, intercalate_concat, List.flatMap_append, List.flatMap_singleton,
    ← List.append_assoc]

theorem forall_mem_intercalate {P : α → Prop} (hsep : ∀ a ∈ sep, P a) (ps : List (List α)) :
    (∀ a ∈ List.intercalate sep ps, P a) ↔ ∀ p ∈ ps, ∀ a ∈ p, P a := by
  induction ps with
  | nil => simp
  | cons p ps ih =>
    cases ps with
    | nil => simp
    | cons q qs =>
      rw [List.intercalate_cons_cons, List.forall_mem_append, List.forall_mem_append, ih,
        List.forall_mem_cons (a := p), and_iff_left hsep]

/-- Pieces that lose nothing at their ends are joined to a list that loses nothing. -/
theorem strip_intercalate {k : α → Bool} (hne : ps ≠ [])
    (hps : ∀ p ∈ ps, p ≠ [] ∧ strip k p = p) (sep : List α) :
    List.intercalate sep ps ≠ [] ∧
      strip k (List.intercalate sep ps) = List.intercalate sep ps := by
  induction ps with
  | nil => exact absurd rfl hne
  | cons p ps ih =>
    obtain ⟨hpne, hp⟩ := hps p List.mem_cons_self
    cases ps with
    | nil => simpa using ⟨hpne, hp⟩
    | cons q qs =>
      obtain ⟨hrest, hstrip⟩ :=
        ih (List.cons_ne_nil q qs) fun x hx => hps x (List.mem_cons_of_mem p hx)
      rw [List.intercalate_cons_cons]
      exact ⟨List.append_ne_nil_of_right_ne_nil _ hrest,
        strip_append_append hp hstrip hpne hrest sep⟩

/-- Joined without some of its pieces, a list is shorter, as there is a separator to each. -/
theorem intercalate_filter_concat_eq_iff {k : List α → Bool} (hsep : sep ≠ [])
    (ps : List (List α)) (p : List α) :
    List.intercalate sep (ps.filter k ++ [p]) = List.intercalate sep (ps ++ [p]) ↔
      ∀ q ∈ ps, k q = true := by
  rw [intercalate_concat, intercalate_concat, List.append_left_inj]
  induction ps with
  | nil => simp
  | cons q qs ih =>
    by_cases hq : k q = true
    · rw [List.filter_cons_of_pos hq, List.flatMap_cons, List.flatMap_cons, List.append_right_inj,
        ih, List.forall_mem_cons, and_iff_right hq]
    · rw [List.filter_cons_of_neg hq, List.flatMap_cons]
      refine ⟨fun heq => ?_, fun hall => absurd (hall q List.mem_cons_self) hq⟩
      have hsub : (qs.filter k).Sublist qs := List.filter_sublist
      have hshort := (hsub.flatMap (· ++ sep)).length_le
      have hlong := congrArg List.length heq
      have hpos := List.length_pos_iff.mpr hsep
      simp only [List.length_append] at hlong
      omega

end Intercalate

theorem Text.joinWith_eq_intercalate (sep : Text) (ts : List Text) :
    joinWith sep ts = List.intercalate sep ts := by
  induction ts with
  | nil => rfl
  | cons p ps ih =>
    cases ps with
    | nil => simp [joinWith]
    | cons q qs => rw [List.intercalate_cons_cons, ← ih]; rfl

theorem Utf8.encode_intercalate (sep : Text) (ts : List Text) :
    encode (List.intercalate sep ts) = List.intercalate (encode sep) (ts.map encode) := by
  induction ts with
  | nil => rfl
  | cons p ps ih =>
    cases ps with
    | nil => simp
    | cons q qs =>
      rw [List.intercalate_cons_cons, encode_append, encode_append, ih]
      exact List.intercalate_cons_cons.symm

end RuleGate
