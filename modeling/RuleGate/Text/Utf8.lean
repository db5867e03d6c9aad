import RuleGate.Text.Basic

/-! # UTF-8

Characters are written as one to four bytes. Reading keeps the bytes still owed and the bounds of
the next one, so that overlong forms, surrogates and values above the last code point are refused
at the first byte that rules them out. The lossy reading puts one replacement character where a
longest well-formed beginning breaks off.
-/
namespace RuleGate

abbrev Bytes := List UInt8

namespace Utf8

/-- The bytes of one character. -/
def encodeChar (c : Char) : Bytes :=
  let n := c.toNat
  if n < 0x80 then [n.toUInt8]
  else if n < 0x800 then [(0xC0 + n / 64).toUInt8, (0x80 + n % 64).toUInt8]
  else if n < 0x10000 then
    [(0xE0 + n / 4096).toUInt8, (0x80 + n / 64 % 64).toUInt8, (0x80 + n % 64).toUInt8]
  else
    [(0xF0 + n / 262144).toUInt8, (0x80 + n / 4096 % 64).toUInt8,
      (0x80 + n / 64 % 64).toUInt8, (0x80 + n % 64).toUInt8]

def encode (t : Text) : Bytes := t.flatMap encodeChar

/-- A character in the making: `owed` more bytes, the next one from `low` to `high`, and the
value of the bytes read. -/
structure Pending where
  owed : Nat
  low : Nat
  high : Nat
  value : Nat

/-- What a byte at the beginning of a character gives: the character, or one in the making. -/
inductive Begun where
  | char (c : Char)
  | pending (p : Pending)
  | refused

def start (b : UInt8) : Begun :=
  let n := b.toNat
  if n < 0x80 then .char (Char.ofNat n)
  else if n < 0xC2 then .refused
  else if n < 0xE0 then .pending ⟨1, 0x80, 0xBF, n - 0xC0⟩
  else if n < 0xF0 then
    .pending ⟨2, if n = 0xE0 then 0xA0 else 0x80, if n = 0xED then 0x9F else 0xBF, n - 0xE0⟩
  else if n < 0xF5 then
    .pending ⟨3, if n = 0xF0 then 0x90 else 0x80, if n = 0xF4 then 0x8F else 0xBF, n - 0xF0⟩
  else .refused

/-- The characters of a byte sequence in order, `none` for each stretch that is not UTF-8. -/
def scanFrom : Option Pending → Bytes → List (Option Char)
  | none, [] => []
  | some _, [] => [none]
  | none, b :: r =>
    match start b with
    | .char c => some c :: scanFrom none r
    | .pending p => scanFrom (some p) r
    | .refused => none :: scanFrom none r
  | some p, b :: r =>
    let n := b.toNat
    if p.low ≤ n ∧ n ≤ p.high then
      let value := p.value * 64 + n % 64
      if p.owed ≤ 1 then some (Char.ofNat value) :: scanFrom none r
      else scanFrom (some ⟨p.owed - 1, 0x80, 0xBF, value⟩) r
    else
      match start b with
      | .char c => none :: some c :: scanFrom none r
      | .pending q => none :: scanFrom (some q) r
      | .refused => none :: none :: scanFrom none r

def scan (b : Bytes) : List (Option Char) := scanFrom none b

/-- The text of a byte sequence that is UTF-8 throughout. -/
def decode? (b : Bytes) : Option Text := (scan b).mapM id

/-- The text of any byte sequence, U+FFFD for each stretch that is not UTF-8. -/
def decodeLossy (b : Bytes) : Text := (scan b).map fun c => c.getD (Char.ofNat 0xFFFD)

end Utf8

end RuleGate
