import RuleGate.Proofs.Text.Utf8

/-! # Cutting texts at bytes

A position in bytes is one at which a text may be cut if it is not beyond the last byte and not
within a character. The bytes of the first characters lead to such a position, and what is cut off
there is the rest of the text.
-/
namespace RuleGate.Utf8

def isContinuation (b : UInt8) : Bool := 0x80 ≤ b.toNat && b.toNat < 0xC0

/-- Whether bytes end at a position, or a character begins there. -/
def isBoundary (b : Bytes) (n : Nat) : Bool := n ≤ b.length && !(b[n]?.any isContinuation)

/-- The text from a byte on; there is none if the text may not be cut at that byte. -/
def sliceFrom? (n : Nat) (t : Text) : Option Text :=
  if isBoundary (encode t) n then decode? ((encode t).drop n) else none

variable {n : Nat}

theorem isContinuation_toUInt8 (hlt : n < 256) (h : n < 0x80 ∨ 0xC0 ≤ n) :
    isContinuation n.toUInt8 = false := by
  unfold isContinuation
  rw [toNat_toUInt8 hlt]
  simp only [Bool.and_eq_false_iff, decide_eq_false_iff_not]
  omega

theorem exists_encodeChar_eq_cons (c : Char) :
    ∃ b bs, encodeChar c = b :: bs ∧ isContinuation b = false := by
  have hvalid : c.toNat < 0xD800 ∨ 0xDFFF < c.toNat ∧ c.toNat < 0x110000 := c.valid
  unfold encodeChar
  dsimp only
  split
  · exact ⟨_, _, rfl, isContinuation_toUInt8 (by omega) (by omega)⟩
  · split
    · exact ⟨_, _, rfl, isContinuation_toUInt8 (by omega) (by omega)⟩
    · split
      · exact ⟨_, _, rfl, isContinuation_toUInt8 (by omega) (by omega)⟩
      · exact ⟨_, _, rfl, isContinuation_toUInt8 (by omega) (by omega)⟩

theorem isBoundary_encode_append (a u : Text) :
    isBoundary (encode (a ++ u)) (encode a).length = true := by
  unfold isBoundary
  rw [encode_append, List.getElem?_append_right (Nat.le_refl _), Nat.sub_self, List.length_append]
  cases u with
  | nil => simp [encode]
  | cons c u =>
    obtain ⟨b, bs, hbytes, hb⟩ := exists_encodeChar_eq_cons c
    simp [encode, hbytes, hb]

/-- A text may be cut behind any of its characters, and the rest is what follows them. -/
theorem sliceFrom?_append (a u : Text) : sliceFrom? (encode a).length (a ++ u) = some u := by
  unfold sliceFrom?
  rw [if_pos (isBoundary_encode_append a u), encode_append, List.drop_left, decode?_encode]

example : sliceFrom? 1 (text "é,") = none ∧ sliceFrom? 2 (text "é,") = some (text ",") ∧
    sliceFrom? 4 (text "é,") = none := by decide

theorem sliceFrom?_two {c d : Char} (hc : c.toNat < 0x80) (hd : d.toNat < 0x80) (u : Text) :
    sliceFrom? 2 (c :: d :: u) = some u := by
  have hlength : (encode [c, d]).length = 2 := by simp [encode, encodeChar, hc, hd]
  rw [← hlength]
  exact sliceFrom?_append [c, d] u

end RuleGate.Utf8
