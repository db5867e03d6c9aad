import RuleGate.Tls.Der

/-! # Certificates

A certificate of version 3 is a sequence of what is certified, an algorithm and a signature. What is
certified names the same algorithm and holds the public key.
-/
namespace RuleGate.Tls

structure Certificate where
  publicKey : Bytes
  deriving DecidableEq

namespace Certificate

/-- The third version, in its tag. -/
def version : Der := ⟨0xA0, [2, 1, 2]⟩

def isSequence (d : Der) : Bool := d.tag == Der.sequenceTag

/-- An extension is an identifier, a mark if it is critical, and a value. -/
def isExtension (d : Der) : Bool :=
  match d.members? with
  | some [name, value] => name.tag == Der.identifierTag && value.tag == Der.octetStringTag
  | some [name, critical, value] =>
    name.tag == Der.identifierTag && critical.tag == 1 && value.tag == Der.octetStringTag
  | _ => false

/-- The extensions at the end, if there are any. -/
def areExtensions : List Der → Bool
  | [] => true
  | [d] => d.tag == 0xA3 && ((Der.only? d.content).bind Der.members?).any (·.all isExtension)
  | _ => false

/-- Read a certificate. -/
def ofDer? (b : Bytes) : Option Certificate := do
  match ← (← Der.only? b).members? with
  | [certified, algorithm, signature] =>
    let _ ← signature.bits?
    match ← certified.members? with
    | v :: serial :: inner :: issuer :: validity :: subject :: key :: rest =>
      if v == version && serial.tag == Der.integerTag && inner == algorithm &&
          [algorithm, issuer, validity, subject, key].all isSequence && areExtensions rest then
        return ⟨key.content⟩
      else none
    | _ => none
  | _ => none

end Certificate

end RuleGate.Tls
