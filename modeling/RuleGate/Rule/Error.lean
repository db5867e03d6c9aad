import RuleGate.Text.Basic

/-! # What can be wrong with a directive -/
namespace RuleGate

inductive RuleFault where
  | missingReplacement
  | unknownFlag (flag : Text)
  | invalidRedirect (code : Text)
  | invalidContentType (value : Text)
  | invalidPattern (pattern : Text)
  | invalidHostPattern (pattern : Text)
  deriving DecidableEq, Repr

/-- A fault with the trimmed directive and its number, counted from one. -/
structure RuleError where
  line : Nat
  directive : Text
  fault : RuleFault
  deriving DecidableEq, Repr

namespace RuleError

def quoted (t : Text) : Text := '\x60' :: t ++ ['\x60']

/-- The fault of a pattern has a reason of its own, which the message leaves to the pattern
language. -/
def hasReason (e : RuleError) : Bool :=
  match e.fault with
  | .invalidPattern _ | .invalidHostPattern _ => true
  | _ => false

/-- The wording of an error, up to the reason if it has one. -/
def message (e : RuleError) : Text :=
  let d := quoted e.directive
  text "line " ++ Text.ofNat e.line ++ text ": " ++
    match e.fault with
    | .missingReplacement => text "directive " ++ d ++ text " has no replacement"
    | .unknownFlag f => text "unknown flag " ++ quoted f ++ text " in " ++ d
    | .invalidRedirect c => text "invalid redirect status " ++ quoted c ++ text " in " ++ d
    | .invalidContentType v => text "invalid content type " ++ quoted v ++ text " in " ++ d
    | .invalidPattern p => text "invalid pattern " ++ quoted p ++ text " in " ++ d ++ text ": "
    | .invalidHostPattern p =>
      text "invalid host pattern " ++ quoted p ++ text " in " ++ d ++ text ": "

end RuleError

end RuleGate
