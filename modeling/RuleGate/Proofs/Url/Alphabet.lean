import RuleGate.Proofs.Result
import RuleGate.Proofs.Text.Digits
import RuleGate.Proofs.Text.Join
import RuleGate.Proofs.Text.Pieces
import RuleGate.Url

/-! # The characters of a normal URL

What separates the parts of a URL stands in none of them once they are normal: it is encoded in
credentials, path and query, and refused in a name. A name may be written in Punycode and a host as
an address, the digits of which are letters and digits, with colons only between brackets.
-/
namespace RuleGate

namespace Percent

variable {inSet : Char → Bool} {c : Char}

end Percent

namespace Domain

def delimiters : Text := text "%#/:<>?@[\\]^|"

theorem isDenied_eq (c : Char) :
    isDenied c = (c.toNat ≤ 0x20 || c.toNat == 0x7F || decide (c ∈ delimiters)) := by
  unfold isDenied
  rw [String.contains_char_eq]
  rfl

theorem isDenied_of_mem_delimiters {c : Char} (h : c ∈ delimiters) : isDenied c = true := by
  rw [isDenied_eq, decide_eq_true h, Bool.or_true]

def IsPlain (t : Text) : Prop := ∀ c ∈ t, isDenied c = false

variable {c : Char} {t u label : Text}

def word : Text := text "-.0123456789abcdefghijklmnopqrstuvwxyz"

theorem isDenied_of_mem_word (h : c ∈ word) : isDenied c = false := by
  have hall : word.all (!isDenied ·) = true := by
    simp only [isDenied_eq]
    decide
  simpa using List.all_eq_true.mp hall c h

theorem IsPlain.not_mem (h : IsPlain t) (hc : c ∈ delimiters) : c ∉ t := fun hmem => by
  have hplain := h c hmem
  rw [isDenied_of_mem_delimiters hc] at hplain
  exact absurd hplain (by decide)

end Domain

namespace Punycode

open Domain

variable {label : Text} {w : Writing}

end Punycode

namespace Domain

variable {t name label : Text}

end Domain

namespace Host

/-- The text of a host: characters of a name, or such characters and colons between brackets. -/
inductive IsText : Text → Prop
  | plain {t : Text} (h : Domain.IsPlain t) : IsText t
  | bracketed {inner : Text} (h : ∀ c ∈ inner, c = ':' ∨ Domain.isDenied c = false) :
    IsText ('[' :: inner ++ [']'])

variable {t : Text} {host : Host}

end Host

end RuleGate
