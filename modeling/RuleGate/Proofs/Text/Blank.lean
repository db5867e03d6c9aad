import Mathlib.Data.List.TakeWhile
import RuleGate.Proofs.Text.Pieces
import RuleGate.Proofs.Text.Strip

/-! # Blanks around texts

Trimming takes the blanks at both ends of a text and no others. A character that is no blank splits
the work: what stands before it is trimmed at its beginning only, and what follows at its end.
-/
namespace RuleGate

theorem strip_append_of_all {α : Type} {p : α → Bool} {pre post : List α}
    (hpre : ∀ a ∈ pre, p a = true) (hpost : ∀ a ∈ post, p a = true) (l : List α) :
    strip p (pre ++ l ++ post) = strip p l := by
  unfold strip
  rw [List.append_assoc, List.dropWhile_append_of_pos hpre, List.dropWhile_append]
  split
  · rename_i hempty
    rw [List.isEmpty_iff.mp hempty, List.dropWhile_eq_nil_iff.mpr hpost]
  · unfold List.rdropWhile
    rw [List.reverse_append, List.dropWhile_append_of_pos fun a ha =>
      hpost a (List.mem_reverse.mp ha)]

namespace Text

def IsBlanks (t : Text) : Prop := ∀ c ∈ t, isBlank c = true

def IsGap (t : Text) : Prop := t ≠ [] ∧ IsBlanks t

def IsField (t : Text) : Prop := t ≠ [] ∧ ∀ c ∈ t, isBlank c = false

instance (t : Text) : Decidable (IsBlanks t) :=
  decidable_of_iff (t.all isBlank = true) List.all_eq_true

instance (t : Text) : Decidable (IsGap t) := inferInstanceAs (Decidable (t ≠ [] ∧ IsBlanks t))

instance (t : Text) : Decidable (IsField t) :=
  decidable_of_iff (t ≠ [] ∧ t.all (!isBlank ·) = true) (by simp [IsField])

variable {t pre post : Text} {c : Char}

theorem trim_eq_strip (t : Text) : trim t = strip isBlank t := rfl

theorem trim_trim (t : Text) : trim (trim t) = trim t := strip_strip isBlank t

theorem trim_append_append (hpre : IsBlanks pre) (hpost : IsBlanks post) (t : Text) :
    trim (pre ++ t ++ post) = trim t := strip_append_of_all hpre hpost t

theorem trim_append_of_isBlanks (hpre : IsBlanks pre) (t : Text) : trim (pre ++ t) = trim t := by
  rw [← trim_append_append hpre (List.forall_mem_nil _) t, List.append_nil]

theorem trim_of_isBlanks (h : IsBlanks t) : trim t = [] := by
  rw [← List.append_nil t, trim_append_of_isBlanks h]
  rfl

theorem trim_of_isField (h : IsField t) : trim t = t :=
  strip_eq_self (fun c hc => h.2 c (List.mem_of_mem_head? hc)) fun c hc =>
    h.2 c (List.mem_of_getLast? hc)

theorem trimStart_append_cons (hc : isBlank c = false) (t u : Text) :
    trimStart (t ++ c :: u) = trimStart t ++ c :: u := dropWhile_append_cons hc t u

theorem trimEnd_append_cons (hc : isBlank c = false) (t u : Text) :
    trimEnd (t ++ c :: u) = t ++ c :: trimEnd u := by
  unfold trimEnd
  rw [List.reverse_append, List.reverse_cons, List.append_assoc, List.singleton_append,
    dropWhile_append_cons hc, List.reverse_append, List.reverse_cons, List.reverse_reverse,
    List.append_assoc, List.singleton_append]

theorem trimStart_eq_cons_iff {u : Text} (hc : isBlank c = false) :
    trimStart t = c :: u ↔ ∃ gap, IsBlanks gap ∧ t = gap ++ c :: u := by
  constructor
  · intro h
    refine ⟨t.takeWhile isBlank, fun x hx => List.mem_takeWhile_imp hx, ?_⟩
    rw [← h]
    exact List.takeWhile_append_dropWhile.symm
  · rintro ⟨gap, hgap, rfl⟩
    rw [trimStart_append_cons hc, trimStart, List.dropWhile_eq_nil_iff.mpr hgap, List.nil_append]

theorem exists_trim_eq_iff {d : Char} (hd : isBlank d = false) :
    (∃ u, trim t = c :: d :: u) ↔ ∃ u, trimStart t = c :: d :: u := by
  constructor
  · rintro ⟨u, hu⟩
    obtain ⟨v, hv⟩ := List.rdropWhile_prefix isBlank (trimStart t)
    refine ⟨u ++ v, ?_⟩
    rw [← hv, show (trimStart t).rdropWhile isBlank = trim t from rfl, hu]
    rfl
  · rintro ⟨u, hu⟩
    exact ⟨trimEnd u, by rw [trim, hu]; exact trimEnd_append_cons hd [c] u⟩

/-- A text that begins with a blank and ends with another character is a gap and what is left
when it is trimmed. -/
theorem exists_eq_gap_append_trim (hne : t ≠ [])
    (hhead : ∀ c, t.head? = some c → isBlank c = true)
    (hlast : ∀ c, t.getLast? = some c → isBlank c = false) :
    ∃ gap, IsGap gap ∧ trim t ≠ [] ∧ t = gap ++ trim t := by
  have hsplit : t.takeWhile isBlank ++ t.dropWhile isBlank = t := List.takeWhile_append_dropWhile
  have hdrop : t.dropWhile isBlank ≠ [] := by
    intro hnil
    have hc := hlast _ (List.getLast?_eq_some_getLast hne)
    rw [List.dropWhile_eq_nil_iff.mp hnil _ (List.getLast_mem hne)] at hc
    exact absurd hc nofun
  have hend : t.getLast? = some ((t.dropWhile isBlank).getLast hdrop) := by
    rw [← List.getLast?_eq_some_getLast hdrop, ← List.getLast?_append_of_ne_nil _ hdrop, hsplit]
  have htrim : trim t = t.dropWhile isBlank :=
    List.rdropWhile_eq_self_iff.mpr fun _ => Bool.eq_false_iff.mp (hlast _ hend)
  obtain ⟨c, u, rfl⟩ := List.exists_cons_of_ne_nil hne
  refine ⟨(c :: u).takeWhile isBlank, ⟨?_, fun x hx => List.mem_takeWhile_imp hx⟩, ?_, ?_⟩
  · rw [List.takeWhile_cons_of_pos (hhead c rfl)]
    exact List.cons_ne_nil _ _
  · rwa [htrim]
  · rw [htrim, hsplit]

end Text

end RuleGate
