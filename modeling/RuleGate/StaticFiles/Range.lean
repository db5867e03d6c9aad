import RuleGate.Text.Basic

/-! # Byte ranges

A range header lists parts of a file: from one byte to another, from a byte on, or a number of last
bytes. It can be satisfied when every part starts within the file and no two parts meet. Numbers
have no leading zeros.
-/
namespace RuleGate

/-- The bytes from the first to the last, counted from zero. -/
structure ByteRange where
  first : Nat
  last : Nat
  deriving DecidableEq

namespace ByteRange

def number? (t : Text) : Option Nat :=
  match t with
  | [] | '0' :: _ :: _ => none
  | t => if !t.all Text.isDigit || UInt64.size ≤ Text.decimal t then none else some (Text.decimal t)

/-- A part of a file of `size` bytes. -/
def ofText? (size : Nat) (t : Text) : Option ByteRange := do
  let (first, last) := Text.cut '-' t
  let last ← last
  let range ←
    if first.isEmpty then do
      let n ← number? last
      if size < n then none else some ⟨size - n, size - 1⟩
    else if last.isEmpty then do some (⟨← number? first, size - 1⟩ : ByteRange)
    else do some ⟨← number? first, min (← number? last) (size - 1)⟩
  if size ≤ range.first ∨ range.last < range.first then none else return range

def meets (a b : ByteRange) : Bool := a.first ≤ b.last && b.first ≤ a.last

def disjoint : List ByteRange → Bool
  | [] => true
  | a :: r => !r.any a.meets && disjoint r

/-- The parts that a header asks for, if it can be satisfied. -/
def ofHeader? (size : Nat) (t : Text) : Option (List ByteRange) := do
  let parts := Text.splitAll ',' (← Text.dropHead? (text "bytes=") t)
  let first ← parts.head?
  let ranges ← (first :: (parts.drop 1).map Text.trim).mapM (ofText? size)
  if disjoint ranges then return ranges else none

end ByteRange

end RuleGate
