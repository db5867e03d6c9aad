/-! # Texts as lists of characters

Directives, URLs, header names and paths are texts. Blanks are the characters with the Unicode
property White_Space; letters are compared without regard to case in ASCII only.
-/
namespace RuleGate

/-- A text is the list of its characters. -/
abbrev Text := List Char

namespace Text

/-- The characters with the property White_Space. -/
def isBlank (c : Char) : Bool :=
  let n := c.toNat
  (9 ≤ n && n ≤ 13) || n == 0x20 || n == 0x85 || n == 0xA0 || n == 0x1680 ||
    (0x2000 ≤ n && n ≤ 0x200A) || n == 0x2028 || n == 0x2029 || n == 0x202F || n == 0x205F ||
    n == 0x3000

def trimStart (t : Text) : Text := t.dropWhile isBlank

def trimEnd (t : Text) : Text := (t.reverse.dropWhile isBlank).reverse

/-- A text without the blanks at its two ends. -/
def trim (t : Text) : Text := trimEnd (trimStart t)

/-- The parts before and after the first `c`; the second is absent when there is no `c`. -/
def cut (c : Char) : Text → Text × Option Text
  | [] => ([], none)
  | x :: t => if x = c then ([], some t) else let (a, b) := cut c t; (x :: a, b)

/-- The pieces between the occurrences of `c`; there is always at least one. -/
def splitAll (c : Char) : Text → List Text
  | [] => [[]]
  | x :: t =>
    if x = c then [] :: splitAll c t
    else
      match splitAll c t with
      | [] => [[x]]
      | p :: ps => (x :: p) :: ps

/-- The pieces with `sep` between neighbours. -/
def joinWith (sep : Text) : List Text → Text
  | [] => []
  | [p] => p
  | p :: ps => p ++ sep ++ joinWith sep ps

/-- The rest after the leading text `head`, if `t` starts with it. -/
def dropHead? : (head t : Text) → Option Text
  | [], t => some t
  | _ :: _, [] => none
  | h :: hs, x :: t => if h = x then dropHead? hs t else none

/-- The text before the trailing `c`, if there is one. -/
def dropLast? (c : Char) (t : Text) : Option Text :=
  match t.reverse with
  | [] => none
  | x :: r => if x = c then some r.reverse else none

def lowerChar (c : Char) : Char := if 'A' ≤ c ∧ c ≤ 'Z' then Char.ofNat (c.toNat + 32) else c

/-- ASCII letters in lower case, every other character unchanged. -/
def lower (t : Text) : Text := t.map lowerChar

def isDigit (c : Char) : Bool := '0' ≤ c && c ≤ '9'

def isLetter (c : Char) : Bool := ('a' ≤ c && c ≤ 'z') || ('A' ≤ c && c ≤ 'Z')

/-- The value of a hexadecimal digit of either case. -/
def hexValue? (c : Char) : Option Nat :=
  if isDigit c then some (c.toNat - 48)
  else if 'a' ≤ c ∧ c ≤ 'f' then some (c.toNat - 87)
  else if 'A' ≤ c ∧ c ≤ 'F' then some (c.toNat - 55)
  else none

/-- The value of a text of decimal digits, read from the left after `n`. -/
def decimalFrom (n : Nat) : Text → Nat
  | [] => n
  | c :: t => decimalFrom (10 * n + (c.toNat - 48)) t

def decimal (t : Text) : Nat := decimalFrom 0 t

/-- The decimal digits of a number. -/
def ofNat (n : Nat) : Text := Nat.toDigits 10 n

/-- One line ends at a line feed; a carriage return before it goes with it, and a final line
feed opens no further line. -/
def lines (t : Text) : List Text :=
  let pieces := splitAll '\n' t
  let ended := pieces.dropLast.map fun p => (dropLast? '\r' p).getD p
  match pieces.getLast? with
  | none | some [] => ended
  | some p => ended ++ [p]

end Text

/-- The characters of a string. -/
def text (s : String) : Text := s.toList

end RuleGate
