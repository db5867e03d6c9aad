import Mathlib.Data.List.DropRight

/-! # Lists without the elements of a kind at their ends

What is left of a list begins and ends with an element of another kind, unless nothing is left. The
elements within the list stay, whatever their kind.
-/
namespace RuleGate

variable {α β : Type} {p q : α → Bool} {l : List α}

def strip (p : α → Bool) (l : List α) : List α := (l.dropWhile p).rdropWhile p

theorem strip_sublist (p : α → Bool) (l : List α) : (strip p l).Sublist l :=
  (List.rdropWhile_prefix p _).sublist.trans (List.dropWhile_sublist p)

theorem head?_strip {a : α} (h : (strip p l).head? = some a) : p a = false := by
  obtain ⟨tail, htail⟩ := List.rdropWhile_prefix p (l.dropWhile p)
  have hdrop : (l.dropWhile p).head? = some a := by
    rw [← htail, List.head?_append, show ((l.dropWhile p).rdropWhile p).head? = some a from h]
    rfl
  have hnot := List.head?_dropWhile_not p l
  rw [hdrop] at hnot
  exact hnot

theorem getLast?_strip {a : α} (h : (strip p l).getLast? = some a) : p a = false := by
  have hne : strip p l ≠ [] := by
    rintro hnil
    rw [hnil] at h
    exact absurd h nofun
  rw [List.getLast?_eq_some_getLast hne] at h
  obtain rfl := Option.some.inj h
  exact Bool.eq_false_iff.mpr (List.rdropWhile_last_not p (l.dropWhile p) hne)

theorem strip_eq_self (hhead : ∀ a, l.head? = some a → p a = false)
    (hlast : ∀ a, l.getLast? = some a → p a = false) : strip p l = l := by
  cases l with
  | nil => rfl
  | cons a l =>
    unfold strip
    rw [List.dropWhile_cons_of_neg (by simp [hhead a rfl]), List.rdropWhile_eq_self_iff]
    intro hne
    simp [hlast _ (List.getLast?_eq_some_getLast hne)]

theorem strip_strip (p : α → Bool) (l : List α) : strip p (strip p l) = strip p l :=
  strip_eq_self (fun _ => head?_strip) fun _ => getLast?_strip

theorem strip_of_mem_filter {ls : List (List α)}
    (h : l ∈ (ls.map (strip p)).filter fun l => !l.isEmpty) : l ≠ [] ∧ strip p l = l := by
  obtain ⟨hmem, hne⟩ := List.mem_filter.mp h
  obtain ⟨k, -, rfl⟩ := List.mem_map.mp hmem
  exact ⟨by simpa using hne, strip_strip p k⟩

theorem strip_append_append {a b : List α} (ha : strip p a = a) (hb : strip p b = b)
    (hane : a ≠ []) (hbne : b ≠ []) (l : List α) : strip p (a ++ l ++ b) = a ++ l ++ b := by
  refine strip_eq_self (fun x hx => ?_) fun x hx => ?_
  · rw [List.append_assoc, List.head?_append_of_ne_nil a hane, ← ha] at hx
    exact head?_strip hx
  · rw [List.getLast?_append_of_ne_nil _ hbne, ← hb] at hx
    exact getLast?_strip hx

theorem strip_map (f : β → α) (p : α → Bool) (l : List β) :
    strip p (l.map f) = (strip (p ∘ f) l).map f := by
  unfold strip List.rdropWhile
  rw [List.dropWhile_map, ← List.map_reverse, List.dropWhile_map, List.map_reverse]

theorem dropWhile_congr (h : ∀ a ∈ l, p a = q a) : l.dropWhile p = l.dropWhile q := by
  induction l with
  | nil => rfl
  | cons a l ih =>
    rw [List.dropWhile_cons, List.dropWhile_cons, h a List.mem_cons_self,
      ih fun x hx => h x (List.mem_cons_of_mem a hx)]

theorem strip_congr (h : ∀ a ∈ l, p a = q a) : strip p l = strip q l := by
  unfold strip List.rdropWhile
  rw [dropWhile_congr h, dropWhile_congr fun a ha =>
    h a ((List.dropWhile_sublist q).subset (List.mem_reverse.mp ha))]

theorem all_dropWhile (h : ∀ a, p a = true → q a = true) (l : List α) :
    (l.dropWhile p).all q = l.all q := by
  induction l with
  | nil => rfl
  | cons a l ih =>
    by_cases ha : p a = true
    · rw [List.dropWhile_cons_of_pos ha, ih, List.all_cons, h a ha, Bool.true_and]
    · rw [List.dropWhile_cons_of_neg ha]

/-- If all that may be lost has a property, a list has it as soon as what is left of it does. -/
theorem all_strip (h : ∀ a, p a = true → q a = true) (l : List α) :
    (strip p l).all q = l.all q := by
  unfold strip List.rdropWhile
  rw [List.all_reverse, all_dropWhile h, List.all_reverse, all_dropWhile h]

end RuleGate
