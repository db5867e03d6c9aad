import RuleGate.Tls.Base64

/-! # PEM files

A file holds sections between lines that begin and end one, in base 64. Lines outside a section do
not count. A section that is faulty is given up, and reading goes on after it.
-/
namespace RuleGate.Tls.Pem

/-- The name of a section and what it holds. -/
structure Section where
  label : Bytes
  content : Bytes
  deriving DecidableEq

/-- Why a section cannot be read. -/
inductive Fault where
  | badBegin
  | noEnd (label : Bytes)
  | badBase64
  deriving DecidableEq

def isLineEnd (b : UInt8) : Bool := b == 10 || b == 13

/-- The lines of a file without their ends. -/
def lines : Bytes → List Bytes
  | [] => [[]]
  | b :: r =>
    if isLineEnd b then [] :: lines r
    else
      match lines r with
      | [] => [[b]]
      | l :: ls => (b :: l) :: ls

/-- The rest after a beginning. -/
def dropHead? : (head line : Bytes) → Option Bytes
  | [], line => some line
  | _ :: _, [] => none
  | h :: hs, b :: line => if h = b then dropHead? hs line else none

def ascii (s : String) : Bytes := Utf8.encode (text s)

/-- The label of a line that begins a section: five hyphens follow it, and blanks do not count. -/
def beginLabel? (rest : Bytes) : Option Bytes :=
  let ending := rest.reverse.takeWhile fun b => b == 45 || b == 32
  if ending.count 45 = 5 then
    some (rest.take (rest.length - ending.length) ++ ending.reverse.takeWhile (· == 32))
  else none

def endLine (label : Bytes) : Bytes := ascii "-----END " ++ label ++ ascii "-----"

/-- A section that has been begun, with the text read so far. -/
structure Open where
  label : Bytes
  content : Bytes

/-- The sections of lines and the faults between them, in order. -/
def scan : Option Open → List Bytes → List (Except Fault Section)
  | none, [] => []
  | some s, [] => [.error (.noEnd s.label)]
  | opened, line :: r =>
    match dropHead? (ascii "-----BEGIN ") line with
    | some rest =>
      match beginLabel? rest with
      | none => .error .badBegin :: scan none r
      | some label => scan (some ⟨label, (opened.map Open.content).getD []⟩) r
    | none =>
      match opened with
      | none => scan none r
      | some s =>
        if (dropHead? (endLine s.label) line).isSome then
          match Base64.decode? s.content with
          | none => .error .badBase64 :: scan none r
          | some content => .ok ⟨s.label, content⟩ :: scan none r
        else scan (some { s with content := s.content ++ line }) r

def sections (file : Bytes) : List (Except Fault Section) := scan none (lines file)

end RuleGate.Tls.Pem
