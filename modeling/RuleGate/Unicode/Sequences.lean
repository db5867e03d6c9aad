import RuleGate.Unicode.Ranges

/-! # Sets of characters as byte sequences

The UTF-8 forms of the characters of a range make up a list of sequences of byte ranges. What a
set costs in a matcher that reads bytes is counted from them.
-/
namespace RuleGate.Unicode.Sequences

/-- Ranges of bytes, one for each byte of a character. -/
abbrev Sequence := List (Nat × Nat)

/-- The ends of the code points of one, two, three and four bytes. -/
def lengthEnds : List Nat := [0x7F, 0x7FF, 0xFFFF, 0x10FFFF]

/-- The UTF-8 bytes of a code point. -/
def bytesOf (n : Nat) : List Nat :=
  if n < 0x80 then [n]
  else if n < 0x800 then [0xC0 + n / 64, 0x80 + n % 64]
  else if n < 0x10000 then [0xE0 + n / 4096, 0x80 + n / 64 % 64, 0x80 + n % 64]
  else [0xF0 + n / 262144, 0x80 + n / 4096 % 64, 0x80 + n / 64 % 64, 0x80 + n % 64]

/-- Where a range has to be cut so that its part up to the cut is one sequence or closer to one:
at a change of length, or where trailing bytes would not run over all their values. -/
def cutAt? (lo hi : Nat) : Option Nat :=
  match lengthEnds.find? fun e => lo ≤ e && e < hi with
  | some e => some e
  | none =>
    if hi < 0x80 then none
    else
      [64, 4096, 262144].findSome? fun block =>
        if lo / block = hi / block then none
        else if lo % block ≠ 0 then some (lo / block * block + block - 1)
        else if hi % block ≠ block - 1 then some (hi / block * block - 1)
        else none

/-- The sequences of a range, cut at most `fuel` times in a row. -/
def ofRange : (fuel lo hi : Nat) → List Sequence
  | 0, _, _ => []
  | fuel + 1, lo, hi =>
    match cutAt? lo hi with
    | some e => ofRange fuel lo e ++ ofRange fuel (e + 1) hi
    | none => [(bytesOf lo).zip (bytesOf hi)]

/-- The sequences of a set, in increasing order. -/
def ofRanges (r : Ranges) : List Sequence :=
  (Ranges.diff r Ranges.surrogates).flatMap fun p => ofRange 16 p.1 p.2

/-- How many ranges two sequences share from their beginning. -/
def shared : Sequence → Sequence → Nat
  | a :: s, b :: t => if a = b then shared s t + 1 else 0
  | _, _ => 0

/-- The number of different beginnings of an ordered list of sequences. -/
def beginnings : (before : Sequence) → List Sequence → Nat
  | _, [] => 0
  | before, s :: r => s.length - shared before s + beginnings s r

end RuleGate.Unicode.Sequences
