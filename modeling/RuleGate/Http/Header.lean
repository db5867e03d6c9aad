import RuleGate.Text.Utf8

/-! # Header fields

Fields keep their order and may repeat a name; names are in lower case. A value is a byte sequence
without control characters other than the tab, and reads as text only when it is ASCII.
-/
namespace RuleGate

/-- The bytes of a field value are the tab and everything from the space on except DEL. -/
def isFieldByte (b : UInt8) : Bool := (32 ≤ b && b != 127) || b == 9

def isFieldValue (v : Bytes) : Bool := v.all isFieldByte

/-- The value of a field as text, if it is visible ASCII, blanks and tabs. -/
def fieldText? (v : Bytes) : Option Text :=
  if v.all fun b => (32 ≤ b && b < 127) || b == 9 then some (v.map fun b => Char.ofNat b.toNat)
  else none

/-- The characters of field names, request methods and other tokens. -/
def isTokenChar (c : Char) : Bool :=
  Text.isLetter c || Text.isDigit c || "!#$%&'*+-.^_\x60|~".contains c

abbrev Headers := List (Text × Bytes)

namespace Headers

def getAll (h : Headers) (name : Text) : List Bytes :=
  (h.filter fun f => f.1 == name).map Prod.snd

/-- The first value of a name. -/
def get? (h : Headers) (name : Text) : Option Bytes := (h.getAll name).head?

def without (h : Headers) (name : Text) : Headers := h.filter fun f => f.1 != name

/-- Replace every field of a name by one. -/
def put (h : Headers) (name : Text) (value : Bytes) : Headers := h.without name ++ [(name, value)]

/-- Add a field unless there is one of its name. -/
def putNew (h : Headers) (name : Text) (value : Bytes) : Headers :=
  if (h.get? name).isSome then h else h ++ [(name, value)]

end Headers

end RuleGate
