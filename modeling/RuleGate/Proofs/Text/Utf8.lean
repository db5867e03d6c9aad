import RuleGate.Text.Utf8

/-! # Writing and reading UTF-8

A text is written character by character, and a byte of ASCII is the whole of its character. The
bytes of a character are read back as the character, so every text is read as it was written.
-/
namespace RuleGate.Utf8

variable {n m low high : Nat} {p : Pending}

theorem encode_append (x y : Text) : encode (x ++ y) = encode x ++ encode y := List.flatMap_append

theorem toNat_ofNat_of_ascii {n : Nat} (h : n < 0x80) : (Char.ofNat n).toNat = n := by
  have hvalid : n.isValidChar := .inl (by omega)
  rw [Char.ofNat, dif_pos hvalid]
  rfl

theorem encodeChar_of_ascii {b : UInt8} (h : b.toNat < 0x80) :
    encodeChar (Char.ofNat b.toNat) = [b] := by
  unfold encodeChar
  rw [toNat_ofNat_of_ascii h]
  simp [h]

theorem encode_map_of_ascii {v : Bytes} (h : ∀ b ∈ v, b.toNat < 0x80) :
    encode (v.map fun b => Char.ofNat b.toNat) = v := by
  induction v with
  | nil => rfl
  | cons b v ih =>
    have hb := encodeChar_of_ascii (h b List.mem_cons_self)
    have hv := ih fun x hx => h x (List.mem_cons_of_mem b hx)
    calc encode ((b :: v).map fun b => Char.ofNat b.toNat)
        = encodeChar (Char.ofNat b.toNat) ++ encode (v.map fun b => Char.ofNat b.toNat) := rfl
      _ = b :: v := by rw [hb, hv, List.singleton_append]

theorem start_of_ascii {b : UInt8} (h : b.toNat < 0x80) :
    start b = .char (Char.ofNat b.toNat) := if_pos h

theorem toNat_toUInt8 (h : n < 256) : n.toUInt8.toNat = n := by
  simp [Nat.toUInt8, h]

theorem start_two (hlow : 0x80 ≤ n) (hhigh : n < 0x800) :
    start (0xC0 + n / 64).toUInt8 = .pending ⟨1, 0x80, 0xBF, n / 64⟩ := by
  unfold start
  rw [toNat_toUInt8 (by omega)]
  dsimp only
  rw [if_neg (by omega), if_neg (by omega), if_pos (by omega), Nat.add_sub_cancel_left]

theorem start_three (h : n < 0x10000) :
    start (0xE0 + n / 4096).toUInt8 =
      .pending ⟨2, if n / 4096 = 0 then 0xA0 else 0x80, if n / 4096 = 13 then 0x9F else 0xBF,
        n / 4096⟩ := by
  have hlast : 0xE0 + n / 4096 = 0xED ↔ n / 4096 = 13 := by omega
  unfold start
  rw [toNat_toUInt8 (by omega)]
  dsimp only
  rw [if_neg (by omega), if_neg (by omega), if_neg (by omega), if_pos (by omega),
    Nat.add_sub_cancel_left]
  simp only [Nat.add_eq_left, hlast]

theorem start_four (h : n < 0x110000) :
    start (0xF0 + n / 262144).toUInt8 =
      .pending ⟨3, if n / 262144 = 0 then 0x90 else 0x80, if n / 262144 = 4 then 0x8F else 0xBF,
        n / 262144⟩ := by
  have hlast : 0xF0 + n / 262144 = 0xF4 ↔ n / 262144 = 4 := by omega
  unfold start
  rw [toNat_toUInt8 (by omega)]
  dsimp only
  rw [if_neg (by omega), if_neg (by omega), if_neg (by omega), if_neg (by omega), if_pos (by omega),
    Nat.add_sub_cancel_left]
  simp only [Nat.add_eq_left, hlast]

theorem scanFrom_start {b : UInt8} (h : start b = .pending p) (r : Bytes) :
    scanFrom none (b :: r) = scanFrom (some p) r := by
  simp only [scanFrom, h]

theorem scanFrom_owed (hlow : low ≤ 0x80 + m % 64) (hhigh : 0x80 + m % 64 ≤ high)
    (owed value : Nat) (r : Bytes) :
    scanFrom (some ⟨owed + 2, low, high, value⟩) ((0x80 + m % 64).toUInt8 :: r) =
      scanFrom (some ⟨owed + 1, 0x80, 0xBF, value * 64 + m % 64⟩) r := by
  have hbits : (0x80 + m % 64) % 64 = m % 64 := by omega
  simp only [scanFrom]
  rw [toNat_toUInt8 (by omega), if_pos ⟨hlow, hhigh⟩, if_neg (by omega), hbits]
  rfl

theorem scanFrom_last (hlow : low ≤ 0x80 + m % 64) (hhigh : 0x80 + m % 64 ≤ high) (value : Nat)
    (r : Bytes) :
    scanFrom (some ⟨1, low, high, value⟩) ((0x80 + m % 64).toUInt8 :: r) =
      some (Char.ofNat (value * 64 + m % 64)) :: scanFrom none r := by
  have hbits : (0x80 + m % 64) % 64 = m % 64 := by omega
  simp only [scanFrom]
  rw [toNat_toUInt8 (by omega), if_pos ⟨hlow, hhigh⟩, if_pos (Nat.le_refl 1), hbits]

theorem scanFrom_two (hlow : 0x80 ≤ n) (hhigh : n < 0x800) (r : Bytes) :
    scanFrom none ((0xC0 + n / 64).toUInt8 :: (0x80 + n % 64).toUInt8 :: r) =
      some (Char.ofNat n) :: scanFrom none r := by
  have hvalue : n / 64 * 64 + n % 64 = n := by omega
  rw [scanFrom_start (start_two hlow hhigh), scanFrom_last (by omega) (by omega), hvalue]

/-- Surrogates are no characters, which is what the bounds on the second byte ask for. -/
theorem scanFrom_three (hlow : 0x800 ≤ n) (hvalid : n < 0xD800 ∨ 0xDFFF < n) (hhigh : n < 0x10000)
    (r : Bytes) :
    scanFrom none ((0xE0 + n / 4096).toUInt8 :: (0x80 + n / 64 % 64).toUInt8 ::
        (0x80 + n % 64).toUInt8 :: r) =
      some (Char.ofNat n) :: scanFrom none r := by
  have hvalue : (n / 4096 * 64 + n / 64 % 64) * 64 + n % 64 = n := by omega
  rw [scanFrom_start (start_three hhigh), scanFrom_owed (by split <;> omega) (by split <;> omega),
    scanFrom_last (by omega) (by omega), hvalue]

theorem scanFrom_four (hlow : 0x10000 ≤ n) (hhigh : n < 0x110000) (r : Bytes) :
    scanFrom none ((0xF0 + n / 262144).toUInt8 :: (0x80 + n / 4096 % 64).toUInt8 ::
        (0x80 + n / 64 % 64).toUInt8 :: (0x80 + n % 64).toUInt8 :: r) =
      some (Char.ofNat n) :: scanFrom none r := by
  have hvalue : ((n / 262144 * 64 + n / 4096 % 64) * 64 + n / 64 % 64) * 64 + n % 64 = n := by
    omega
  rw [scanFrom_start (start_four hhigh), scanFrom_owed (by split <;> omega) (by split <;> omega),
    scanFrom_owed (by omega) (by omega), scanFrom_last (by omega) (by omega), hvalue]

/-- The bytes of a character are read as the character, whatever follows them. -/
theorem scanFrom_encodeChar (c : Char) (r : Bytes) :
    scanFrom none (encodeChar c ++ r) = some c :: scanFrom none r := by
  have hvalid : c.toNat < 0xD800 ∨ 0xDFFF < c.toNat ∧ c.toNat < 0x110000 := c.valid
  suffices hread : scanFrom none (encodeChar c ++ r) =
      some (Char.ofNat c.toNat) :: scanFrom none r by rwa [Char.ofNat_toNat] at hread
  unfold encodeChar
  generalize c.toNat = n at hvalid ⊢
  dsimp only
  split
  · have hbyte : n.toUInt8.toNat = n := toNat_toUInt8 (by omega)
    have hstart : start n.toUInt8 = .char (Char.ofNat n) := by
      rw [start_of_ascii (by rwa [hbyte]), hbyte]
    simp only [List.singleton_append, scanFrom, hstart]
  · split
    · exact scanFrom_two (by omega) (by omega) r
    · split
      · exact scanFrom_three (by omega) (by omega) (by omega) r
      · exact scanFrom_four (by omega) (by omega) r

theorem scan_encode (t : Text) : scan (encode t) = t.map some := by
  induction t with
  | nil => rfl
  | cons c t ih =>
    calc scan (encode (c :: t))
        = some c :: scan (encode t) := scanFrom_encodeChar c (encode t)
      _ = (c :: t).map some := by rw [ih, List.map_cons]

theorem decode?_encode (t : Text) : decode? (encode t) = some t := by
  rw [decode?, scan_encode, List.mapM_map]
  exact (List.mapM_pure (m := Option) (f := id)).trans (congrArg some t.map_id)

end RuleGate.Utf8
