import RuleGate.Proofs.Text.Utf8
import RuleGate.Query

/-! # Decoding around a plain character

Percent decoding and the lossy reading of UTF-8 work on both sides of an ASCII byte independently,
as long as the byte is neither a percent sign nor a hexadecimal digit. A decoded text therefore
grows with the text that it comes from.
-/
namespace RuleGate

namespace Utf8

theorem low_of_start {b : UInt8} {p : Pending} (h : start b = .pending p) : 0x80 ≤ p.low := by
  unfold start at h
  grind

theorem scanFrom_of_not_range {p : Pending} {a : UInt8}
    (h : ¬ (p.low ≤ a.toNat ∧ a.toNat ≤ p.high)) (x : Bytes) :
    scanFrom (some p) (a :: x) = none :: scanFrom none (a :: x) := by
  cases ha : start a <;> simp [scanFrom, h, ha]

/-- An ASCII byte is a character by itself, and cuts off one in the making before it. -/
theorem scanFrom_append_ascii {b : UInt8} (h : b.toNat < 0x80) (x y : Bytes) (q : Option Pending)
    (hq : ∀ p, q = some p → 0x80 ≤ p.low) :
    scanFrom q (x ++ b :: y) = scanFrom q x ++ some (Char.ofNat b.toNat) :: scanFrom none y := by
  induction x generalizing q with
  | nil =>
    have hchar : scanFrom none (b :: y) = some (Char.ofNat b.toNat) :: scanFrom none y := by
      simp [scanFrom, start_of_ascii h]
    cases q with
    | none => exact hchar
    | some p =>
      have hlow := hq p rfl
      rw [List.nil_append, scanFrom_of_not_range (by omega), hchar]
      rfl
  | cons a x ih =>
    rw [List.cons_append]
    have hafresh : scanFrom none (a :: (x ++ b :: y)) =
        scanFrom none (a :: x) ++ some (Char.ofNat b.toNat) :: scanFrom none y := by
      cases ha : start a with
      | char c => simp [scanFrom, ha, ih none (by simp)]
      | pending p =>
        have hp : ∀ p', some p = some p' → 0x80 ≤ p'.low := by
          rintro p' ⟨⟩
          exact low_of_start ha
        simp [scanFrom, ha, ih (some p) hp]
      | refused => simp [scanFrom, ha, ih none (by simp)]
    cases q with
    | none => exact hafresh
    | some p =>
      by_cases hrange : p.low ≤ a.toNat ∧ a.toNat ≤ p.high
      · by_cases howed : p.owed ≤ 1
        · simp [scanFrom, hrange, howed, ih none (by simp)]
        · simp [scanFrom, hrange, howed, ih (some ⟨p.owed - 1, 0x80, 0xBF, _⟩) (by simp)]
      · rw [scanFrom_of_not_range hrange, scanFrom_of_not_range hrange, hafresh, List.cons_append]

theorem decodeLossy_append_ascii {b : UInt8} (h : b.toNat < 0x80) (x y : Bytes) :
    decodeLossy (x ++ b :: y) = decodeLossy x ++ Char.ofNat b.toNat :: decodeLossy y := by
  unfold decodeLossy scan
  rw [scanFrom_append_ascii h x y none (by simp)]
  simp

end Utf8

namespace Percent

theorem decode_cons_of_ne {b : UInt8} (h : b ≠ 37) (x : Bytes) :
    decode (b :: x) = b :: decode x := by
  rw [decode]
  exact fun _ _ _ hb _ => h hb

theorem decode_percent {x : Bytes}
    (h : ∀ a c r, x = a :: c :: r → digit? a = none ∨ digit? c = none) :
    decode (37 :: x) = 37 :: decode x := by
  match x with
  | [] => simp [decode]
  | [_] => simp [decode]
  | a :: c :: r =>
    rw [decode]
    rcases h a c r rfl with hnone | hnone <;> simp [hnone]

/-- A byte that cannot stand in an escape sequence separates those before it from those after. -/
theorem decode_append_plain {b : UInt8} (hb : b ≠ 37) (hdigit : digit? b = none) (x y : Bytes) :
    decode (x ++ b :: y) = decode x ++ b :: decode y := by
  fun_induction decode x with
  | case1 => exact decode_cons_of_ne hb y
  | case2 h l r hi lo hhi hlo ih => simp [decode, hhi, hlo, ih]
  | case3 h l r hnot ih =>
    rw [List.cons_append, decode_percent, ih, List.cons_append]
    rintro a c s ⟨⟩
    cases hh : digit? h with
    | none => exact .inl rfl
    | some hi => exact .inr (Option.eq_none_iff_forall_ne_some.mpr fun lo hl => hnot hi lo hh hl)
  | case4 a r hnot ih =>
    by_cases ha : a = 37
    · subst ha
      rw [List.cons_append, decode_percent, ih, List.cons_append]
      intro c d s hs
      match r with
      | [] => exact .inl ((List.cons.inj hs).1 ▸ hdigit)
      | [_] => exact .inr ((List.cons.inj (List.cons.inj hs).2).1 ▸ hdigit)
      | h :: l :: r => exact absurd rfl (hnot h l r rfl)
    · rw [List.cons_append, decode_cons_of_ne ha, ih, List.cons_append]

end Percent

namespace Query

/-- A text is decoded on both sides of a `#` independently. -/
theorem decode_append_hash (a b : Text) : decode (a ++ '#' :: b) = decode a ++ '#' :: decode b := by
  have hhash : Utf8.encode ['#'] = [35] := by decide
  unfold decode
  rw [List.map_append, List.map_cons, if_neg (by decide), List.append_cons,
    Utf8.encode_append, Utf8.encode_append, hhash, List.append_assoc, List.singleton_append,
    Percent.decode_append_plain (by decide) (by decide), Utf8.decodeLossy_append_ascii (by decide)]
  rfl

end Query

end RuleGate
