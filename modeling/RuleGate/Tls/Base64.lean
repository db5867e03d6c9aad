import RuleGate.Text.Utf8

/-! # Base 64

Four characters stand for three bytes. The last four may end in one or two equals signs, and the
bits that no byte takes are zero. Blanks do not count.
-/
namespace RuleGate.Tls.Base64

def sextet? (b : UInt8) : Option Nat :=
  let n := b.toNat
  if 65 ≤ n ∧ n ≤ 90 then some (n - 65)
  else if 97 ≤ n ∧ n ≤ 122 then some (n - 71)
  else if 48 ≤ n ∧ n ≤ 57 then some (n + 4)
  else if n = 43 then some 62
  else if n = 47 then some 63
  else none

def isBlank (b : UInt8) : Bool := b == 9 || b == 10 || b == 13 || b == 32

/-- The bytes of characters in groups of four. -/
def decodeGroups : Bytes → Option Bytes
  | [] => some []
  | [a, b, 61, 61] => do
    let (a, b) := (← sextet? a, ← sextet? b)
    if b % 16 = 0 then some [(4 * a + b / 16).toUInt8] else none
  | [a, b, c, 61] => do
    let (a, b, c) := (← sextet? a, ← sextet? b, ← sextet? c)
    if c % 4 = 0 then some [(4 * a + b / 16).toUInt8, (16 * (b % 16) + c / 4).toUInt8] else none
  | a :: b :: c :: d :: r => do
    let (a, b, c, d) := (← sextet? a, ← sextet? b, ← sextet? c, ← sextet? d)
    let rest ← decodeGroups r
    return (4 * a + b / 16).toUInt8 :: (16 * (b % 16) + c / 4).toUInt8 ::
      (64 * (c % 4) + d).toUInt8 :: rest
  | _ => none

def decode? (t : Bytes) : Option Bytes := decodeGroups (t.filter (!isBlank ·))

end RuleGate.Tls.Base64
