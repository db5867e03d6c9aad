import RuleGate.Unicode.Ranges

/-! # Tables of what characters stand for

The entries of a table give characters and their texts in hexadecimal numbers. One kind of entry is
a range, with `-` for every member and `:` for every second one, a `>` and the character that its
first member stands for, which the others follow in step. The other is the first of some
neighbours, a `=` and their texts with `|` between, each as its characters with `.` between.
-/
namespace RuleGate.Unicode

/-- What characters stand for, by the character. -/
abbrev Forms := List (Char × Text)

namespace Forms

def readText (t : Text) : Text := (Text.splitAll '.' t).map fun n => Char.ofNat (readHex n)

def readEntry (t : Text) : Forms :=
  match Text.cut '=' t, Text.cut '>' t with
  | (first, some forms), _ =>
    ((Text.splitAll '|' forms).map readText).zipIdx.map fun (form, i) =>
      (Char.ofNat (readHex first + i), form)
  | (_, none), (span, target) =>
    let members := (readSpan span).flatMap fun (lo, hi) => List.range' lo (hi + 1 - lo)
    let target := readHex (target.getD [])
    members.map fun n => (Char.ofNat n, [Char.ofNat (target + (n - members.headD 0))])

def ofLines (lines : List String) : Forms :=
  lines.flatMap fun line => (Text.splitAll ' ' (text line)).flatMap readEntry

end Forms

end RuleGate.Unicode
