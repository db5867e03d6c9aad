import RuleGate.Pattern

/-! # Templates

A template refers to groups of a pattern by a dollar sign and a name. The name stands in braces or
is the longest run of ASCII letters, digits and underscores. One that is a number means the group
with this number, any other one the group of this name. Two dollar signs stand for one, and a dollar
sign that nothing belongs to stands for itself.
-/
namespace RuleGate

/-- A part of a template: a character or a reference to a group. -/
inductive Piece where
  | char (c : Char)
  | group (index : Nat)
  deriving DecidableEq, Repr

abbrev Template := List Piece

namespace Pattern

/-- The numbers by which groups can be meant are below this one. -/
def numberLimit : Nat := UInt64.size

/-- The number that a name is; it may have a plus sign in front. -/
def groupNumber? (name : Text) : Option Nat :=
  let digits := match name with
    | '+' :: r => r
    | name => name
  if digits.isEmpty || !digits.all Text.isDigit || numberLimit ≤ Text.decimal digits then none
  else some (Text.decimal digits)

/-- The group that a name means. -/
def group? (p : Pattern) (name : Text) : Option Nat :=
  (groupNumber? name).or ((p.names.find? fun n => n.1.text == name).map Prod.snd)

end Pattern

namespace Template

/-- Characters of names that stand without braces. -/
def isNameChar (c : Char) : Bool := Text.isLetter c || Text.isDigit c || c == '_'

/-- A reference by name; without a group of the name it is nothing. -/
def reference (group? : Text → Option Nat) (name : Text) : Template :=
  ((group? name).map Piece.group).toList

mutual

/-- The parts of a text in which names mean groups. -/
def ofText (group? : Text → Option Nat) : Text → Template
  | [] => []
  | '$' :: r => afterDollar group? r
  | c :: r => .char c :: ofText group? r

/-- The parts of a text that follows a dollar sign. A brace that is never closed opens no name. -/
def afterDollar (group? : Text → Option Nat) : Text → Template
  | [] => [.char '$']
  | '$' :: r => .char '$' :: ofText group? r
  | '\x7b' :: r =>
    if r.contains '\x7d' then inBraces group? [] r else .char '$' :: .char '\x7b' :: ofText group? r
  | c :: r =>
    if isNameChar c then inName group? [c] r else .char '$' :: .char c :: ofText group? r

/-- The parts of a text that follows the beginning of a name in braces. -/
def inBraces (group? : Text → Option Nat) (name : Text) : Text → Template
  | [] => []
  | '\x7d' :: r => reference group? name ++ ofText group? r
  | c :: r => inBraces group? (name ++ [c]) r

/-- The parts of a text that follows the beginning of a name without braces. -/
def inName (group? : Text → Option Nat) (name : Text) : Text → Template
  | [] => reference group? name
  | c :: r =>
    if isNameChar c then inName group? (name ++ [c]) r
    else if c = '$' then reference group? name ++ afterDollar group? r
    else reference group? name ++ .char c :: ofText group? r

end

/-- The text that a template stands for at a match. -/
def expand (t : Template) (m : Pattern.Match) (subject : Text) : Text :=
  t.flatMap fun
    | .char c => [c]
    | .group i => m.group subject i

end Template

namespace Pattern

/-- Replace the leftmost match in a text by a template; without a match nothing changes. -/
def substitute (p : Pattern) (t : Template) (subject : Text) : Text :=
  match p.find? subject with
  | none => subject
  | some m => subject.take m.start ++ t.expand m subject ++ subject.drop m.stop

end Pattern

end RuleGate
