import RuleGate.Proofs.Url.Alphabet
import RuleGate.Proofs.Url.Authority

/-! # Normal URLs

A URL of a backend is one whose scheme has the right letters in either case. What is read is normal:
the parts can be told apart in its text, there is a path, and the number after the colon is a
service.
-/
namespace RuleGate.Url

variable {c : Char} {t rest word : Text} {scheme : Scheme} {u : Url} {a : Authority} {n : Nat}

/-! ## The scheme -/

end RuleGate.Url
