import RuleGate.Text.Percent
import RuleGate.Unicode.Direction
import RuleGate.Unicode.Joining
import RuleGate.Unicode.Mapping
import RuleGate.Unicode.Normalization
import RuleGate.Url.Punycode

/-! # Domain names

The characters of a name are mapped, which brings it into lower case, and the name is normalized.
Its labels between full stops must then be well formed: none starts with a mark, joiners stand
where they join, and in a name with letters that are written from right to left every label keeps
one direction. Labels outside ASCII are written in Punycode.
-/
namespace RuleGate.Domain

open Unicode

/-- ASCII characters that no name may have: controls, the blank and the delimiters of a URL. -/
def isDenied (c : Char) : Bool :=
  c.toNat ≤ 0x20 || c.toNat == 0x7F || "%#/:<>?@[\\]^|".contains c

/-- The characters of a name, if none is disallowed or denied. -/
def map? (t : Text) : Option Text := do
  let name := normalize (← t.mapM Mapping.ofChar?).flatten
  if name.any isDenied then none else return name

/-! ## Joiners -/

/-- The class of the marks that suppress the vowel of the consonant before them. -/
def virama : Nat := 9

/-- Whether every joiner follows a virama or, if it keeps letters apart, is between letters that
would join; `before` is reversed. -/
def joinersFit (before : Text) : Text → Bool
  | [] => true
  | c :: r =>
    let fits := c.toNat != 0x200C && c.toNat != 0x200D ||
      before.head?.any (combiningClass · == virama) ||
      c.toNat == 0x200C && Joining.reaches Joining.joinsBehind before &&
        Joining.reaches Joining.joinsBefore r
    fits && joinersFit (c :: before) r

/-! ## Directions -/

/-- Whether a label keeps one direction: it starts with a letter, goes on without letters of the
other direction and ends, marks aside, with a letter or digit of its own. -/
def keepsDirection (label : Text) : Bool :=
  let d := label.map Direction.ofChar
  let last := (d.reverse.dropWhile (· == .mark)).head?
  match d.head? with
  | none => true
  | some .right =>
    !d.contains .left && !(d.contains .europeanDigit && d.contains .arabicDigit) &&
      (last == some .right || last == some .europeanDigit || last == some .arabicDigit)
  | some .left =>
    !d.contains .right && !d.contains .arabicDigit &&
      (last == some .left || last == some .europeanDigit)
  | some _ => false

/-- Whether a label has characters for which the direction of the whole name counts; the first of
them is in the Hebrew block. -/
def isRightward (label : Text) : Bool :=
  label.any fun c =>
    0x590 ≤ c.toNat && (Direction.ofChar c == .right || Direction.ofChar c == .arabicDigit)

/-! ## Labels -/

def marks : Ranges := Category.ranges ["Mn", "Mc", "Me"]

/-- A label may not start with a mark, the first of which is U+0300. -/
def startsWithMark (label : Text) : Bool :=
  label.head?.any fun c => 0x300 ≤ c.toNat && Ranges.contains marks c.toNat

def isAscii (label : Text) : Bool := label.all (·.toNat < 0x80)

/-- The number of characters in the longest label that is written in Punycode. -/
def labelLimit : Nat := 1000

/-- The number of characters in the longest label that is read as Punycode, without its prefix. -/
def codeLimit : Nat := 2000

/-- Whether a label is as a name holds it. -/
def isLabel (label : Text) : Bool :=
  !startsWithMark label && joinersFit [] label && (isAscii label || label.length ≤ labelLimit)

/-- The label that a mapped one stands for. One in Punycode has something outside ASCII, nothing
of which a mapping would change. -/
def label? (t : Text) : Option Text :=
  match Text.dropHead? (text "xn--") t with
  | none => if isLabel t then some t else none
  | some code =>
    if !isAscii code || codeLimit < code.length then none
    else do
      let label ← Punycode.decode? code
      if isAscii label || map? label != some label || !isLabel label then none
      else return label

def labelText (label : Text) : Text :=
  if isAscii label then label else text "xn--" ++ Punycode.encode label

/-- A name in ASCII. -/
def ascii? (t : Text) : Option Text := do
  let labels ← (Text.splitAll '.' (← map? t)).mapM label?
  if labels.any isRightward && !labels.all keepsDirection then none
  else return Text.joinWith ['.'] (labels.map labelText)

/-- The name in ASCII for a text in a URL, in which bytes may be percent-encoded. -/
def ofText? (t : Text) : Option Text := do
  ascii? (← Utf8.decode? (Percent.decode (Utf8.encode t)))

end RuleGate.Domain
