import RuleGate.Proofs.Text.Blank

/-! # Lines of texts

A line ends at a line feed, and a carriage return before the line feed is part of the end. Apart
from blanks, a line is therefore what stands before its end.
-/
namespace RuleGate.Text

variable {line : Text}

def chomp (line : Text) : Text := (dropLast? '\r' line).getD line

theorem lines_append_newline (h : '\n' ∉ line) (t : Text) :
    lines (line ++ '\n' :: t) = chomp line :: lines t := by
  obtain ⟨piece, pieces, ht⟩ := exists_splitAll_eq_cons '\n' t
  unfold lines
  rw [splitAll_append_self h, ht]
  dsimp only
  rw [List.dropLast_cons_cons, List.getLast?_cons_cons, List.map_cons]
  split <;> rfl

theorem lines_of_not_mem (h : '\n' ∉ line) : lines line = if line = [] then [] else [line] := by
  unfold lines
  rw [splitAll_of_not_mem h]
  cases line <;> rfl

theorem trim_chomp (line : Text) : trim (chomp line) = trim line := by
  unfold chomp
  cases h : dropLast? '\r' line with
  | none => rfl
  | some t =>
    have hreturn : IsBlanks ['\r'] := by decide
    rw [dropLast?_eq_some_iff.mp h, Option.getD_some]
    exact (trim_append_append (List.forall_mem_nil _) hreturn t).symm

def IsLineEnd (ending : Text) : Prop := ending = text "\n" ∨ ending = text "\r\n"

instance : DecidablePred IsLineEnd := fun _ => inferInstanceAs (Decidable (_ ∨ _))

/-- A line that is ended is the first line, up to blanks. -/
theorem exists_lines_append {ending : Text} (h : '\n' ∉ line) (hending : IsLineEnd ending)
    (t : Text) :
    ∃ first, trim first = trim line ∧ lines (line ++ ending ++ t) = first :: lines t := by
  rcases hending with rfl | rfl
  · refine ⟨chomp line, trim_chomp line, ?_⟩
    rw [List.append_assoc]
    exact lines_append_newline h t
  · have hreturn : '\n' ∉ line ++ ['\r'] := by simp [h]
    refine ⟨chomp (line ++ ['\r']), ?_, ?_⟩
    · rw [trim_chomp]
      exact trim_append_append (List.forall_mem_nil _) (by decide : IsBlanks ['\r']) line
    · rw [← lines_append_newline hreturn, List.append_assoc, List.append_assoc]
      rfl

end RuleGate.Text
