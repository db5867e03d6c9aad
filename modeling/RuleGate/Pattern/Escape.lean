import RuleGate.Pattern.Expr
import RuleGate.Unicode.CaseFold
import RuleGate.Unicode.Property

/-! # Escapes

After a backslash stand punctuation, which means itself, control characters, code points in
hexadecimal, named sets and conditions. The mode of the place decides between Unicode and ASCII
meanings, and whether blanks and comments are skipped.
-/
namespace RuleGate.Pattern

open Unicode

/-- What the flags in force at a place of a pattern are. -/
structure Mode where
  caseless : Bool := false
  multiLine : Bool := false
  dotAll : Bool := false
  swapGreed : Bool := false
  unicode : Bool := true
  crlf : Bool := false
  spaced : Bool := false

/-- The rest after blanks and comments, from inside a comment or not. -/
def dropSpace : (comment : Bool) → Text → Text
  | _, [] => []
  | true, c :: r => dropSpace (c ≠ '\n') r
  | false, c :: r =>
    if Text.isBlank c then dropSpace false r else if c = '#' then dropSpace true r else c :: r

namespace Mode

/-- The rest from the next character that counts. -/
def skip (m : Mode) (t : Text) : Text := if m.spaced then dropSpace false t else t

/-- A set closed under case where the mode asks for it. -/
def fold (m : Mode) (r : Ranges) : Ranges :=
  if !m.caseless then r
  else if m.unicode then CaseFold.close r else CaseFold.closeAscii r

/-- The complement of a set, which must not let in bytes that are no characters. -/
def negate? (m : Mode) (r : Ranges) : Option Ranges :=
  if m.unicode then some (Ranges.complement r) else none

def negateIf? (m : Mode) (negated : Bool) (r : Ranges) : Option Ranges :=
  if negated then m.negate? r else some r

end Mode

/-- What an escape stands for. -/
inductive Atom where
  | char (c : Char)
  | set (chars : Ranges)
  | look (condition : Look)

/-- Characters with a meaning of their own in patterns. -/
def isMeta (c : Char) : Bool := "\\.+*?()|[]\x7b\x7d^$#&-~".contains c

/-- Characters that mean themselves after a backslash. -/
def isEscapable (c : Char) : Bool :=
  isMeta c || (c.toNat < 0x80 && !Text.isDigit c && !Text.isLetter c && c != '<' && c != '>')

/-- The sets `\d`, `\s` and `\w` of a mode. -/
def Mode.shorthand (m : Mode) (kind : Char) : Ranges :=
  match kind with
  | 'd' => if m.unicode then Property.decimal else [(48, 57)]
  | 's' => if m.unicode then Property.whiteSpace else [(9, 13), (32, 32)]
  | _ => if m.unicode then Property.word else [(48, 57), (65, 90), (95, 95), (97, 122)]

/-- The character with a code point, surrogates and points above the last excluded. -/
def scalar? (n : Nat) : Option Char := if n.isValidChar then some (Char.ofNat n) else none

/-- `count` hexadecimal digits after `n`. -/
def Mode.hexDigits (m : Mode) : (count n : Nat) → Text → Option (Nat × Text)
  | 0, n, t => some (n, t)
  | _ + 1, _, [] => none
  | count + 1, n, c :: r => do m.hexDigits count (16 * n + (← Text.hexValue? c)) (m.skip r)

/-- The characters up to a closing brace, without what the mode skips. -/
def Mode.braced (m : Mode) : (fuel : Nat) → Text → Option (Text × Text)
  | 0, _ => none
  | fuel + 1, t =>
    match m.skip t with
    | [] => none
    | '\x7d' :: r => some ([], r)
    | c :: r => (m.braced fuel r).map fun (name, rest) => (c :: name, rest)

/-- A code point in hexadecimal, `\xHH`, `\uHHHH`, `\UHHHHHHHH` or in braces. Outside Unicode
mode two digits are a byte, which has to be ASCII. -/
def Mode.hex (m : Mode) (kind : Char) (t : Text) : Option (Char × Text) :=
  match m.skip t with
  | '\x7b' :: r => do
    let (digits, rest) ← m.braced (r.length + 1) r
    if digits.isEmpty then none
    let n ← digits.foldlM (fun n c => (Text.hexValue? c).map (16 * n + ·)) 0
    return (← scalar? n, m.skip rest)
  | t => do
    let (n, rest) ← m.hexDigits (match kind with | 'x' => 2 | 'u' => 4 | _ => 8) 0 t
    if kind = 'x' ∧ !m.unicode ∧ 0x7F < n then none
    return (← scalar? n, rest)

/-- The set named after `\p` or `\P`: one letter, a name in braces, or a property with a value. -/
def Mode.property (m : Mode) (negated : Bool) (t : Text) : Option (Ranges × Text) :=
  if !m.unicode then none
  else
    match m.skip t with
    | [] | '\\' :: _ => none
    | '\x7b' :: r => do
      let (name, rest) ← m.braced (r.length + 1) r
      let (negated, set) ← propertySet negated name
      return (← m.negateIf? negated (m.fold set), rest)
    | c :: r => do
      return (← m.negateIf? negated (m.fold (← Property.named? [c])), m.skip r)
where
  /-- Look for `!=`, then `:`, then `=`. -/
  propertySet (negated : Bool) (name : Text) : Option (Bool × Ranges) :=
    match unequal? name with
    | some (p, v) => (Property.valued? p v).map (!negated, ·)
    | none =>
      match Text.cut ':' name, Text.cut '=' name with
      | (p, some v), _ | _, (p, some v) => (Property.valued? p v).map (negated, ·)
      | _, _ => (Property.named? name).map (negated, ·)
  unequal? : Text → Option (Text × Text)
    | '!' :: '=' :: r => some ([], r)
    | c :: r => (unequal? r).map fun (p, v) => (c :: p, v)
    | [] => none

def isEdgeNameChar (c : Char) : Bool := Text.isLetter c || c == '-'

/-- The letters and hyphens from here, without what the mode skips. -/
def Mode.edgeName (m : Mode) : (fuel : Nat) → Text → Text × Text
  | 0, t => ([], t)
  | fuel + 1, t =>
    match t with
    | c :: r =>
      if isEdgeNameChar c then
        let (name, rest) := m.edgeName fuel (m.skip r)
        (c :: name, rest)
      else ([], t)
    | [] => ([], [])

/-- A word edge, with what kind of edge in braces after it; braces with anything but letters are
left for a repetition. -/
def Mode.edge (m : Mode) (t : Text) : Option (Look × Text) :=
  match t with
  | '\x7b' :: r =>
    match m.skip r with
    | [] => none
    | c :: s =>
      if !isEdgeNameChar c then some (.wordEdge m.unicode, t)
      else
        match m.edgeName (s.length + 1) (c :: s) with
        | (name, '\x7d' :: rest) =>
          match String.ofList name with
          | "start" => some (.wordStart m.unicode, rest)
          | "end" => some (.wordEnd m.unicode, rest)
          | "start-half" => some (.wordStartHalf m.unicode, rest)
          | "end-half" => some (.wordEndHalf m.unicode, rest)
          | _ => none
        | _ => none
  | _ => some (.wordEdge m.unicode, t)

/-- Read what follows a backslash. -/
def Mode.escape (m : Mode) : Text → Option (Atom × Text)
  | [] => none
  | c :: r =>
    match c with
    | 'x' | 'u' | 'U' => (m.hex c r).map fun (c, rest) => (.char c, rest)
    | 'p' | 'P' => (m.property (c == 'P') r).map fun (set, rest) => (.set set, rest)
    | 'd' | 's' | 'w' => some (.set (m.shorthand c), r)
    | 'D' | 'S' | 'W' =>
      (m.negate? (m.shorthand (Text.lowerChar c))).map fun set => (.set set, r)
    | 'a' => some (.char '\x07', r)
    | 'f' => some (.char '\x0c', r)
    | 't' => some (.char '\t', r)
    | 'n' => some (.char '\n', r)
    | 'r' => some (.char '\r', r)
    | 'v' => some (.char '\x0b', r)
    | 'A' => some (.look .textStart, r)
    | 'z' => some (.look .textEnd, r)
    | 'b' => (m.edge r).map fun (look, rest) => (.look look, rest)
    | 'B' => some (.look (.noWordEdge m.unicode), r)
    | '<' => some (.look (.wordStart m.unicode), r)
    | '>' => some (.look (.wordEnd m.unicode), r)
    | c => if isEscapable c then some (.char c, r) else none

end RuleGate.Pattern
