import RuleGate.Text.Utf8

/-! # DER

A value is written as a tag, the length of its content in as few bytes as possible, and the
content.
-/
namespace RuleGate.Tls

/-- A value that has been read: its tag and its content. -/
structure Der where
  tag : Nat
  content : Bytes
  deriving DecidableEq

namespace Der

def integerTag : Nat := 0x02
def bitStringTag : Nat := 0x03
def octetStringTag : Nat := 0x04
def identifierTag : Nat := 0x06
def sequenceTag : Nat := 0x30

/-- The number that bytes are, the most significant first. -/
def number (b : Bytes) : Nat := b.foldl (fun n x => 256 * n + x.toNat) 0

/-- The length at the front and the rest. A length below 128 is one byte. -/
def length? : Bytes → Option (Nat × Bytes)
  | [] => none
  | b :: r =>
    if b < 128 then some (b.toNat, r)
    else
      let size := b.toNat - 128
      let n := number (r.take size)
      let least := if size = 1 then 128 else 1 <<< (8 * (size - 1))
      if size = 0 ∨ 4 < size ∨ r.length < size ∨ n < least then none else some (n, r.drop size)

/-- The value at the front and the rest. -/
def next? : Bytes → Option (Der × Bytes)
  | [] => none
  | tag :: r =>
    match length? r with
    | none => none
    | some (n, r) => if r.length < n then none else some (⟨tag.toNat, r.take n⟩, r.drop n)

/-- The values that fill bytes. -/
def allFrom? : (fuel : Nat) → Bytes → Option (List Der)
  | _, [] => some []
  | 0, _ => none
  | fuel + 1, b =>
    match next? b with
    | none => none
    | some (d, r) => (allFrom? fuel r).map (d :: ·)

def all? (b : Bytes) : Option (List Der) := allFrom? b.length b

/-- The only value that fills bytes. -/
def only? (b : Bytes) : Option Der :=
  match all? b with
  | some [d] => some d
  | _ => none

/-- The members of a sequence. -/
def members? (d : Der) : Option (List Der) := if d.tag = sequenceTag then all? d.content else none

/-- The number of an integer that is not negative and has no leading zero too many. -/
def integer? (d : Der) : Option Nat :=
  match d.tag == integerTag, d.content with
  | true, 0 :: b :: r => if b < 128 then none else some (number (b :: r))
  | true, b :: r => if b < 128 then some (number (b :: r)) else none
  | _, _ => none

/-- The bytes of a bit string without spare bits. -/
def bits? (d : Der) : Option Bytes :=
  match d.tag == bitStringTag, d.content with
  | true, 0 :: r => some r
  | _, _ => none

end Der

end RuleGate.Tls
