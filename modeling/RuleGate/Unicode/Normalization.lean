import RuleGate.Unicode.CombiningClass
import RuleGate.Unicode.Decomposition

/-! # Normalization

Texts that are canonically equivalent have one composed form. A text is taken apart, its marks are
put in the order of their classes, and each letter is composed with as many of the characters
behind it as it can be.
-/
namespace RuleGate.Unicode

/-- Put a mark in front of those that follow it, behind all of a lower class. -/
def insertMark (c : Char) : Text → Text
  | [] => [c]
  | d :: r =>
    if 0 < combiningClass d ∧ combiningClass d < combiningClass c then d :: insertMark c r
    else c :: d :: r

/-- Put the marks between characters of class zero in the order of their classes. -/
def orderMarks : Text → Text
  | [] => []
  | c :: r => if combiningClass c = 0 then c :: orderMarks r else insertMark c (orderMarks r)

/-- Whether the marks that stay behind a letter, last one first, keep a character away from it. -/
def isBlocked (marks : Text) (c : Char) : Bool :=
  marks.head?.any fun d => combiningClass c ≤ combiningClass d

/-- Compose a letter with the characters behind it; `marks` stay, the last one first. -/
def composeFrom (letter : Char) (marks : Text) : Text → Text
  | [] => letter :: marks.reverse
  | c :: r =>
    match if isBlocked marks c then none else compose? letter c with
    | some composed => composeFrom composed marks r
    | none =>
      if combiningClass c = 0 then letter :: marks.reverse ++ composeFrom c [] r
      else composeFrom letter (c :: marks) r

/-- Compose every letter of a text in which the marks are in order. -/
def composeAll : Text → Text
  | [] => []
  | c :: r => if combiningClass c = 0 then composeFrom c [] r else c :: composeAll r

/-- Normalization form C of a text. -/
def normalize (t : Text) : Text := composeAll (orderMarks (t.flatMap decompose))

end RuleGate.Unicode
