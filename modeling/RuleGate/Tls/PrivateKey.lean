import RuleGate.Tls.Curve

/-! # Private keys

A key is a number below the order of a curve. It stands alone, with the curve if that is known, or
in an envelope that names the algorithm and the curve. A public key that comes with it has to
belong to it.
-/
namespace RuleGate.Tls

structure PrivateKey where
  curve : Curve
  secret : Nat
  point : Point

namespace PrivateKey

/-- The identifier of keys on elliptic curves. -/
def algorithm : Bytes := [0x2A, 0x86, 0x48, 0xCE, 0x3D, 0x02, 0x01]

def curve? (identifier : Bytes) : Option Curve :=
  Curve.all.find? fun c => c.identifier == identifier

/-- The content of the member with a tag of its own. -/
def tagged? (tag : Nat) (l : List Der) : Option Der :=
  (l.find? fun d => d.tag == tag).bind fun d => Der.only? d.content

/-- A key that stands alone; its curve is the given one unless it names one. -/
def ofPlain? (known : Option Curve) (b : Bytes) : Option PrivateKey := do
  match ← (← Der.only? b).members? with
  | version :: secret :: rest =>
    if version.integer? != some 1 || secret.tag != Der.octetStringTag then none
    else
      let named := (tagged? 0xA0 rest).bind fun d => curve? d.content
      let curve ← known.or named
      let secret := Der.number secret.content
      let point ← curve.publicPoint secret
      let given := (tagged? 0xA1 rest).bind Der.bits?
      if secret = 0 ∨ curve.order ≤ secret ∨ given.any (· != curve.encode point) then none
      else return ⟨curve, secret, point⟩
  | _ => none

/-- A key in an envelope. -/
def ofEnvelope? (b : Bytes) : Option PrivateKey := do
  match ← (← Der.only? b).members? with
  | version :: kind :: key :: _ =>
    let ids ← kind.members?
    if version.integer?.all (1 < ·) || key.tag != Der.octetStringTag then none
    else
      match ids with
      | [⟨6, a⟩, ⟨6, c⟩] => if a = algorithm then ofPlain? (← curve? c) key.content else none
      | _ => none
  | _ => none

/-- Read a key of either form. -/
def ofDer? (b : Bytes) : Option PrivateKey := (ofEnvelope? b).or (ofPlain? none b)

/-- The public key as a certificate holds it. -/
def publicKey (k : PrivateKey) : Bytes :=
  let value (tag : UInt8) (b : Bytes) : Bytes := tag :: b.length.toUInt8 :: b
  value 0x30 (value 0x06 algorithm ++ value 0x06 k.curve.identifier) ++
    value 0x03 (0 :: k.curve.encode k.point)

end PrivateKey

end RuleGate.Tls
