import RuleGate.Tls.Der

/-! # Elliptic curves

The points of a curve over a prime field are those with `y² = x³ - 3x + b` and one at infinity.
The public key of a number is its multiple of a base point.
-/
namespace RuleGate.Tls

/-- A point that is not at infinity. -/
structure Point where
  x : Nat
  y : Nat
  deriving DecidableEq

/-- A curve by its identifier, the size of a coordinate in bytes, the prime of its field, the
order of its base point and that point, which fixes the constant of its equation. -/
structure Curve where
  identifier : Bytes
  size : Nat
  prime : Nat
  order : Nat
  base : Point

namespace Curve

def p256 : Curve where
  identifier := [0x2A, 0x86, 0x48, 0xCE, 0x3D, 0x03, 0x01, 0x07]
  size := 32
  prime := 0xFFFFFFFF00000001000000000000000000000000FFFFFFFFFFFFFFFFFFFFFFFF
  order := 0xFFFFFFFF00000000FFFFFFFFFFFFFFFFBCE6FAADA7179E84F3B9CAC2FC632551
  base :=
    ⟨0x6B17D1F2E12C4247F8BCE6E563A440F277037D812DEB33A0F4A13945D898C296,
      0x4FE342E2FE1A7F9B8EE7EB4A7C0F9E162BCE33576B315ECECBB6406837BF51F5⟩

def p384 : Curve where
  identifier := [0x2B, 0x81, 0x04, 0x00, 0x22]
  size := 48
  prime := 1 <<< 384 - 1 <<< 128 - 1 <<< 96 + 1 <<< 32 - 1
  order := 0xFFFFFFFFFFFFFFFFFFFFFFFFFFFFFFFFFFFFFFFFFFFFFFFF <<< 192 +
    0xC7634D81F4372DDF581A0DB248B0A77AECEC196ACCC52973
  base :=
    ⟨0xAA87CA22BE8B05378EB1C71EF320AD746E1D3B628BA79B98 <<< 192 +
        0x59F741E082542A385502F25DBF55296C3A545E3872760AB7,
      0x3617DE4A96262C6F5D9E98BF9292DC29F8F41DBD289A147C <<< 192 +
        0xE9DA3113B5F0B8C00A60B1CE1D7E819D7A431D7C90EA0E5F⟩

def all : List Curve := [p256, p384]

/-- The power of a number in the field, its exponent given in bits from the least. -/
def power (c : Curve) (n : Nat) : List Bool → Nat
  | [] => 1
  | bit :: r =>
    let half := power c (n * n % c.prime) r
    if bit then n * half % c.prime else half

/-- The bits of a number from the least. -/
def bits : (fuel n : Nat) → List Bool
  | 0, _ => []
  | fuel + 1, n => (n % 2 == 1) :: bits fuel (n / 2)

/-- The inverse of a number in the field. -/
def inverse (c : Curve) (n : Nat) : Nat := c.power n (bits (8 * c.size) (c.prime - 2))

/-- The difference of two numbers in the field. -/
def sub (c : Curve) (a b : Nat) : Nat := (a + c.prime - b % c.prime) % c.prime

/-- The third point of a line through two points with a slope, reflected. -/
def third (c : Curve) (slope : Nat) (p q : Point) : Point :=
  let x := c.sub (c.sub (slope * slope) p.x) q.x
  ⟨x, c.sub (slope * c.sub p.x x) p.y⟩

/-- The sum of two points; `none` is the point at infinity. -/
def add (c : Curve) : Option Point → Option Point → Option Point
  | none, q => q
  | p, none => p
  | some p, some q =>
    if p.x = q.x then
      if p.y = q.y ∧ p.y ≠ 0 then
        some (c.third (c.sub (3 * p.x * p.x) 3 * c.inverse (2 * p.y) % c.prime) p q)
      else none
    else some (c.third (c.sub q.y p.y * c.inverse (c.sub q.x p.x) % c.prime) p q)

/-- The multiple of a point by a number in bits from the least. -/
def times (c : Curve) (p : Option Point) : List Bool → Option Point
  | [] => none
  | bit :: r =>
    let rest := times c (c.add p p) r
    if bit then c.add p rest else rest

/-- The public key of a private one. -/
def publicPoint (c : Curve) (secret : Nat) : Option Point :=
  c.times (some c.base) (bits (8 * c.size) secret)

/-- The bytes of a number, the most significant first. -/
def bytesOf : (size n : Nat) → Bytes
  | 0, _ => []
  | size + 1, n => bytesOf size (n / 256) ++ [(n % 256).toUInt8]

/-- A point as its two coordinates. -/
def encode (c : Curve) (p : Point) : Bytes := 4 :: bytesOf c.size p.x ++ bytesOf c.size p.y

end Curve

end RuleGate.Tls
