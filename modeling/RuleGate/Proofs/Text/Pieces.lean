import RuleGate.Text.Basic

/-! # Cutting and splitting texts

Where a text is cut depends on the first occurrence of the separator only, and splitting treats
the text after any other character as part of the piece before it.
-/
namespace RuleGate.Text

variable {c : Char} {t : Text}

theorem cut_of_not_mem (h : c ∉ t) : cut c t = (t, none) := by
  induction t with
  | nil => rfl
  | cons x t ih =>
    rw [List.mem_cons, not_or] at h
    rw [cut, if_neg (Ne.symm h.1), ih h.2]

theorem cut_append_cons {before : Text} (h : c ∉ before) (after : Text) :
    cut c (before ++ c :: after) = (before, some after) := by
  induction before with
  | nil => simp [cut]
  | cons x before ih =>
    rw [List.mem_cons, not_or] at h
    rw [List.cons_append, cut, if_neg (Ne.symm h.1), ih h.2]

theorem not_mem_cut (c : Char) (t : Text) : c ∉ (cut c t).1 := by
  by_cases h : c ∈ t
  · obtain ⟨before, after, rfl, hbefore⟩ := List.eq_append_cons_of_mem h
    rwa [cut_append_cons hbefore]
  · rwa [cut_of_not_mem h]

theorem cut_eq (c : Char) (t : Text) :
    t = (cut c t).1 ++ ((cut c t).2.map (c :: ·)).getD [] := by
  by_cases h : c ∈ t
  · obtain ⟨before, after, rfl, hbefore⟩ := List.eq_append_cons_of_mem h
    rw [cut_append_cons hbefore]
    rfl
  · rw [cut_of_not_mem h]
    exact (List.append_nil t).symm

/-- What is left behind the cut is shorter, even if there was nothing to cut at. -/
theorem length_cut_lt (c : Char) (ht : t ≠ []) : ((cut c t).2.getD []).length < t.length := by
  have hlength := congrArg List.length (cut_eq c t)
  cases hcut : (cut c t).2 with
  | none => exact List.length_pos_iff.mpr ht
  | some after =>
    rw [hcut, List.length_append] at hlength
    rw [hlength, Option.getD_some, Option.map_some, Option.getD_some, List.length_cons]
    omega

theorem takeWhile_ne_append {before : Text} (h : c ∉ before) (after : Text) :
    (before ++ after).takeWhile (· != c) = before ++ after.takeWhile (· != c) := by
  refine List.takeWhile_append_of_pos fun x hx => ?_
  rw [bne_iff_ne]
  rintro rfl
  exact h hx

/-- A text that is taken from no further ends what is taken from a text before it. -/
theorem takeWhile_append_of_nil {p : Char → Bool} {after : Text} (h : after.takeWhile p = [])
    (before : Text) : (before ++ after).takeWhile p = before.takeWhile p := by
  induction before with
  | nil => exact h
  | cons x before ih => rw [List.cons_append, List.takeWhile_cons, List.takeWhile_cons, ih]

theorem dropWhile_append_cons {p : Char → Bool} (hc : p c = false) (before after : Text) :
    (before ++ c :: after).dropWhile p = before.dropWhile p ++ c :: after := by
  induction before with
  | nil => exact List.dropWhile_cons_of_neg (by simp [hc])
  | cons x before ih =>
    rw [List.cons_append, List.dropWhile_cons, List.dropWhile_cons, ih]
    split <;> rfl

theorem dropLast?_eq_some_iff {u : Text} : dropLast? c t = some u ↔ t = u ++ [c] := by
  unfold dropLast?
  constructor
  · intro h
    split at h
    · exact absurd h nofun
    · rename_i x r hr
      split at h
      · rename_i hx
        subst hx
        obtain rfl := Option.some.inj h
        rw [← List.reverse_reverse t, hr, List.reverse_cons]
      · exact absurd h nofun
  · rintro rfl
    simp

theorem splitAll_cons_self (c : Char) (t : Text) : splitAll c (c :: t) = [] :: splitAll c t :=
  if_pos rfl

theorem splitAll_cons_of_ne {x : Char} (h : x ≠ c) {piece : Text} {pieces : List Text}
    (ht : splitAll c t = piece :: pieces) : splitAll c (x :: t) = (x :: piece) :: pieces := by
  rw [splitAll, if_neg h, ht]

theorem exists_splitAll_eq_cons (c : Char) (t : Text) :
    ∃ piece pieces, splitAll c t = piece :: pieces := by
  induction t with
  | nil => exact ⟨[], [], rfl⟩
  | cons x t ih =>
    obtain ⟨piece, pieces, ht⟩ := ih
    by_cases hx : x = c
    · subst hx
      exact ⟨[], _, splitAll_cons_self x t⟩
    · exact ⟨x :: piece, pieces, splitAll_cons_of_ne hx ht⟩

/-- A character that does not separate joins the pieces on its two sides. -/
theorem splitAll_append_cons {x : Char} (h : x ≠ c) (a b : Text) :
    ∃ first last next rest, splitAll c a = first ++ [last] ∧ splitAll c b = next :: rest ∧
      splitAll c (a ++ x :: b) = first ++ (last ++ x :: next) :: rest := by
  obtain ⟨next, rest, hb⟩ := exists_splitAll_eq_cons c b
  suffices ha : ∃ first last, splitAll c a = first ++ [last] ∧
      splitAll c (a ++ x :: b) = first ++ (last ++ x :: next) :: rest by
    obtain ⟨first, last, ha, hab⟩ := ha
    exact ⟨first, last, next, rest, ha, hb, hab⟩
  induction a with
  | nil => exact ⟨[], [], rfl, splitAll_cons_of_ne h hb⟩
  | cons y a ih =>
    obtain ⟨first, last, ha, hab⟩ := ih
    rw [List.cons_append]
    by_cases hy : y = c
    · subst hy
      refine ⟨[] :: first, last, ?_, ?_⟩
      · rw [splitAll_cons_self, ha, List.cons_append]
      · rw [splitAll_cons_self, hab, List.cons_append]
    · cases first with
      | nil => exact ⟨[], y :: last, splitAll_cons_of_ne hy ha, splitAll_cons_of_ne hy hab⟩
      | cons p first =>
        exact ⟨(y :: p) :: first, last, splitAll_cons_of_ne hy ha, splitAll_cons_of_ne hy hab⟩

theorem splitAll_append_of_not_mem {a b piece : Text} {pieces : List Text} (ha : c ∉ a)
    (hb : splitAll c b = piece :: pieces) : splitAll c (a ++ b) = (a ++ piece) :: pieces := by
  induction a with
  | nil => exact hb
  | cons x a ih =>
    rw [List.mem_cons, not_or] at ha
    exact splitAll_cons_of_ne (Ne.symm ha.1) (ih ha.2)

theorem splitAll_of_not_mem (h : c ∉ t) : splitAll c t = [t] := by
  have hsplit := splitAll_append_of_not_mem h (b := []) rfl
  rwa [List.append_nil] at hsplit

/-- A separator divides the pieces before it from those after it. -/
theorem splitAll_append_separator (c : Char) (a b : Text) :
    splitAll c (a ++ c :: b) = splitAll c a ++ splitAll c b := by
  induction a with
  | nil => exact splitAll_cons_self c b
  | cons x a ih =>
    obtain ⟨piece, pieces, ha⟩ := exists_splitAll_eq_cons c a
    rw [List.cons_append]
    rw [ha] at ih
    by_cases hx : x = c
    · subst hx
      rw [splitAll_cons_self, splitAll_cons_self, ih, ha]
      rfl
    · rw [splitAll_cons_of_ne hx ih, splitAll_cons_of_ne hx ha]
      rfl

theorem splitAll_append_self {a : Text} (ha : c ∉ a) (b : Text) :
    splitAll c (a ++ c :: b) = a :: splitAll c b := by
  rw [splitAll_append_separator, splitAll_of_not_mem ha, List.singleton_append]

theorem splitAll_eq_cut (c : Char) (t : Text) :
    splitAll c t = (cut c t).1 :: ((cut c t).2.map (splitAll c)).getD [] := by
  by_cases h : c ∈ t
  · obtain ⟨before, after, rfl, hbefore⟩ := List.eq_append_cons_of_mem h
    rw [cut_append_cons hbefore, splitAll_append_self hbefore]
    rfl
  · rw [cut_of_not_mem h, splitAll_of_not_mem h]
    rfl

theorem joinWith_cons_cons (c : Char) (p q : Text) (qs : List Text) :
    joinWith [c] (p :: q :: qs) = p ++ c :: joinWith [c] (q :: qs) := by
  rw [joinWith, List.append_assoc, List.singleton_append]
  exact List.cons_ne_nil q qs

theorem joinWith_append_cons (sep a b : Text) (ps : List Text) :
    joinWith sep ((a ++ b) :: ps) = a ++ joinWith sep (b :: ps) := by
  cases ps with
  | nil => rfl
  | cons p ps => simp only [joinWith, List.append_assoc]

theorem joinWith_cons_of_ne_nil {ps : List Text} (hne : ps ≠ []) (c : Char) (p : Text) :
    joinWith [c] (p :: ps) = p ++ c :: joinWith [c] ps := by
  obtain ⟨q, qs, rfl⟩ := List.exists_cons_of_ne_nil hne
  exact joinWith_cons_cons c p q qs

/-- The last pieces may be joined before the others. -/
theorem joinWith_append (c : Char) (ts : List Text) (p : Text) (ps : List Text) :
    joinWith [c] (ts ++ p :: ps) = joinWith [c] (ts ++ [joinWith [c] (p :: ps)]) := by
  induction ts with
  | nil => rfl
  | cons t ts ih =>
    rw [List.cons_append, List.cons_append, joinWith_cons_of_ne_nil (by simp),
      joinWith_cons_of_ne_nil (by simp), ih]

theorem joinWith_splitAll (c : Char) (t : Text) : joinWith [c] (splitAll c t) = t := by
  induction t with
  | nil => rfl
  | cons x t ih =>
    obtain ⟨piece, pieces, ht⟩ := exists_splitAll_eq_cons c t
    rw [ht] at ih
    by_cases hx : x = c
    · subst hx
      rw [splitAll_cons_self, ht, joinWith_cons_cons, ih, List.nil_append]
    · rw [splitAll_cons_of_ne hx ht]
      cases pieces with
      | nil => exact congrArg (x :: ·) ih
      | cons q qs => exact congrArg (x :: ·) ih

theorem splitAll_joinWith_concat {ts : List Text} (h : ∀ t ∈ ts, c ∉ t) (last : Text) :
    splitAll c (joinWith [c] (ts ++ [last])) = ts ++ splitAll c last := by
  induction ts with
  | nil => rfl
  | cons t ts ih =>
    obtain ⟨ht, hts⟩ := List.forall_mem_cons.mp h
    rw [List.cons_append, joinWith_cons_of_ne_nil (by simp), splitAll_append_self ht, ih hts,
      List.cons_append]

theorem not_mem_of_mem_splitAll {piece : Text} (h : piece ∈ splitAll c t) : c ∉ piece := by
  induction t generalizing piece with
  | nil =>
    rw [List.mem_singleton.mp h]
    exact List.not_mem_nil
  | cons x t ih =>
    by_cases hx : x = c
    · subst hx
      rw [splitAll_cons_self] at h
      rcases List.mem_cons.mp h with rfl | h
      · exact List.not_mem_nil
      · exact ih h
    · obtain ⟨first, pieces, ht⟩ := exists_splitAll_eq_cons c t
      rw [splitAll_cons_of_ne hx ht] at h
      rw [ht] at ih
      rcases List.mem_cons.mp h with rfl | h
      · rw [List.mem_cons, not_or]
        exact ⟨Ne.symm hx, ih List.mem_cons_self⟩
      · exact ih (List.mem_cons_of_mem _ h)

theorem subset_of_mem_splitAll {piece : Text} (h : piece ∈ splitAll c t) : piece ⊆ t := by
  induction t generalizing piece with
  | nil =>
    rw [List.mem_singleton.mp h]
    exact List.Subset.refl _
  | cons x t ih =>
    by_cases hx : x = c
    · subst hx
      rw [splitAll_cons_self] at h
      rcases List.mem_cons.mp h with rfl | h
      · exact List.nil_subset _
      · exact List.Subset.trans (ih h) (List.subset_cons_self x t)
    · obtain ⟨first, pieces, ht⟩ := exists_splitAll_eq_cons c t
      rw [splitAll_cons_of_ne hx ht] at h
      rw [ht] at ih
      rcases List.mem_cons.mp h with rfl | h
      · exact List.cons_subset_cons x (ih List.mem_cons_self)
      · exact List.Subset.trans (ih (List.mem_cons_of_mem _ h)) (List.subset_cons_self x t)

end RuleGate.Text
