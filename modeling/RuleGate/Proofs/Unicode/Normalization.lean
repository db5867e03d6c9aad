import RuleGate.Unicode.Normalization

/-! # Texts that are normal

Up to U+02FF no character is a mark, and none is composed with one before it; up to U+00BF none can
be taken apart either. A text of such characters, as any text in ASCII, is its own normal form.
-/
namespace RuleGate.Unicode

variable {c letter : Char} {t : Text}

theorem combiningClass_of_lt (h : c.toNat < 0x300) : combiningClass c = 0 := if_pos h

theorem compose?_of_lt (h : c.toNat < 0x300) (letter : Char) : compose? letter c = none := if_pos h

theorem decompose_of_lt (h : c.toNat < 0xC0) : decompose c = [c] := if_pos h

theorem flatMap_decompose_of_lt (h : ∀ c ∈ t, c.toNat < 0xC0) : t.flatMap decompose = t := by
  induction t with
  | nil => rfl
  | cons c t ih =>
    obtain ⟨hc, ht⟩ := List.forall_mem_cons.mp h
    rw [List.flatMap_cons, decompose_of_lt hc, ih ht, List.singleton_append]

theorem orderMarks_of_lt (h : ∀ c ∈ t, c.toNat < 0x300) : orderMarks t = t := by
  induction t with
  | nil => rfl
  | cons c t ih =>
    obtain ⟨hc, ht⟩ := List.forall_mem_cons.mp h
    rw [orderMarks, if_pos (combiningClass_of_lt hc), ih ht]

theorem composeFrom_of_lt (h : ∀ c ∈ t, c.toNat < 0x300) :
    composeFrom letter [] t = letter :: t := by
  induction t generalizing letter with
  | nil => rfl
  | cons c t ih =>
    obtain ⟨hc, ht⟩ := List.forall_mem_cons.mp h
    simp only [composeFrom, compose?_of_lt hc, combiningClass_of_lt hc, ite_self, if_true, ih ht,
      List.reverse_nil, List.singleton_append]

theorem composeAll_of_lt (h : ∀ c ∈ t, c.toNat < 0x300) : composeAll t = t := by
  cases t with
  | nil => rfl
  | cons c t =>
    obtain ⟨hc, ht⟩ := List.forall_mem_cons.mp h
    rw [composeAll, if_pos (combiningClass_of_lt hc), composeFrom_of_lt ht]

theorem normalize_of_lt (h : ∀ c ∈ t, c.toNat < 0xC0) : normalize t = t := by
  have hlow : ∀ c ∈ t, c.toNat < 0x300 := fun c hc => Nat.lt_trans (h c hc) (by decide)
  unfold normalize
  rw [flatMap_decompose_of_lt h, orderMarks_of_lt hlow, composeAll_of_lt hlow]

end RuleGate.Unicode
