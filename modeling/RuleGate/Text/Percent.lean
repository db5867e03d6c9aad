import RuleGate.Text.Utf8

/-! # Percent encoding

A percent sign and two hexadecimal digits stand for a byte. Reading leaves every other percent sign
alone; writing encodes the bytes of a set and everything outside ASCII.
-/
namespace RuleGate.Percent

/-- The value of a hexadecimal digit in a byte sequence. -/
def digit? (b : UInt8) : Option Nat := Text.hexValue? (Char.ofNat b.toNat)

/-- Put a byte in place of each percent sign with two hexadecimal digits. -/
def decode : Bytes → Bytes
  | [] => []
  | 37 :: h :: l :: r =>
    match digit? h, digit? l with
    | some h, some l => (16 * h + l).toUInt8 :: decode r
    | _, _ => 37 :: decode (h :: l :: r)
  | b :: r => b :: decode r

/-- The upper-case hexadecimal digit of a value below 16. -/
def hexDigit (n : Nat) : Char := if n < 10 then Char.ofNat (48 + n) else Char.ofNat (55 + n)

def encodeByte (b : UInt8) : Text := ['%', hexDigit (b.toNat / 16), hexDigit (b.toNat % 16)]

/-- Encode the characters that are in a set or outside ASCII. -/
def encode (inSet : Char → Bool) (t : Text) : Text :=
  t.flatMap fun c =>
    if 0x7F < c.toNat || inSet c then (Utf8.encodeChar c).flatMap encodeByte else [c]

end RuleGate.Percent
