import Mathlib.Data.List.TakeWhile
import Mathlib.Tactic.Ring
import RuleGate.Text.Basic

/-! # Digits

A number in a text is a run of digits. As far as it can be read it ends before the first other
character, and its value is below the power of ten that the count of its digits gives.
-/
namespace RuleGate.Text

def IsNumber (t : Text) : Prop := t ≠ [] ∧ ∀ c ∈ t, isDigit c = true

/-- A number in front of the text is not continued by it. -/
def EndsNumber (t : Text) : Prop := ∀ c, t.head? = some c → isDigit c = false

variable {c : Char} {number t : Text}

theorem toNat_of_isDigit (h : isDigit c = true) : c.toNat ≤ 57 := by
  simp only [isDigit, Bool.and_eq_true, decide_eq_true_eq] at h
  exact h.2

theorem isLetter_of_isDigit (h : isDigit c = true) : isLetter c = false := by
  have hc : c.toNat ≤ 57 := toNat_of_isDigit h
  have hlower : ¬ 'a' ≤ c := fun hle => absurd (Nat.le_trans hle hc) (by decide)
  have hupper : ¬ 'A' ≤ c := fun hle => absurd (Nat.le_trans hle hc) (by decide)
  simp [isLetter, hlower, hupper]

/-! ## The value of a number -/

theorem decimalFrom_cons (n : Nat) (c : Char) (t : Text) :
    decimalFrom n (c :: t) = decimalFrom (10 * n + (c.toNat - 48)) t := by
  rfl

/-- Digits name a number below the power of ten that their count gives. -/
theorem decimalFrom_lt (h : t.all isDigit = true) (n : Nat) :
    decimalFrom n t < (n + 1) * 10 ^ t.length := by
  induction t generalizing n with
  | nil =>
    rw [List.length_nil, Nat.pow_zero, Nat.mul_one]
    exact Nat.lt_succ_self n
  | cons c t ih =>
    rw [List.all_cons, Bool.and_eq_true] at h
    have hc := toNat_of_isDigit h.1
    have hrest := ih h.2 (10 * n + (c.toNat - 48))
    have hle : (10 * n + (c.toNat - 48) + 1) * 10 ^ t.length ≤ 10 * (n + 1) * 10 ^ t.length :=
      Nat.mul_le_mul_right _ (by omega)
    rw [decimalFrom_cons, List.length_cons, Nat.pow_succ]
    calc decimalFrom (10 * n + (c.toNat - 48)) t
        < (10 * n + (c.toNat - 48) + 1) * 10 ^ t.length := hrest
      _ ≤ 10 * (n + 1) * 10 ^ t.length := hle
      _ = (n + 1) * (10 ^ t.length * 10) := by ring

/-! ## Where a number ends -/

theorem isNumber_cons (hc : isDigit c = true) (t : Text) :
    IsNumber (c :: t.takeWhile isDigit) := by
  refine ⟨List.cons_ne_nil _ _, fun d hd => ?_⟩
  rcases List.mem_cons.mp hd with rfl | hd
  · exact hc
  · exact List.mem_takeWhile_imp hd

theorem endsNumber_dropWhile (t : Text) : EndsNumber (t.dropWhile isDigit) := by
  intro c hc
  have hnot := List.head?_dropWhile_not isDigit t
  rw [hc] at hnot
  exact hnot

theorem IsNumber.not_mem (h : IsNumber number) (hc : isDigit c = false) : c ∉ number := by
  intro hmem
  simp [h.2 c hmem] at hc

theorem IsNumber.exists_cons (h : IsNumber number) :
    ∃ c digits, number = c :: digits ∧ isDigit c = true ∧ ∀ d ∈ digits, isDigit d = true := by
  obtain ⟨c, digits, rfl⟩ := List.exists_cons_of_ne_nil h.1
  exact ⟨c, digits, rfl, by simpa using h.2⟩

/-! ## Writing a number -/

end RuleGate.Text
