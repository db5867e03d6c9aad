import RuleGate.Text.Basic

/-! # Status codes

A status code has three digits and is at least 100.
-/
namespace RuleGate

structure Status where
  code : Nat
  atLeast : 100 ≤ code := by decide
  below : code < 1000 := by decide
  deriving DecidableEq

namespace Status

def ofNat? (n : Nat) : Option Status :=
  if h : 100 ≤ n ∧ n < 1000 then some ⟨n, h.1, h.2⟩ else none

/-- A status code from decimal digits, of which there may be leading zeros and a plus sign. -/
def ofText? (t : Text) : Option Status :=
  let digits := match t with
    | '+' :: r => r
    | t => t
  if digits.isEmpty || !digits.all Text.isDigit then none else ofNat? (Text.decimal digits)

def ok : Status := ⟨200, by decide, by decide⟩
def partialContent : Status := ⟨206, by decide, by decide⟩
def movedPermanently : Status := ⟨301, by decide, by decide⟩
def temporaryRedirect : Status := ⟨307, by decide, by decide⟩
def forbidden : Status := ⟨403, by decide, by decide⟩
def notFound : Status := ⟨404, by decide, by decide⟩
def methodNotAllowed : Status := ⟨405, by decide, by decide⟩
def gone : Status := ⟨410, by decide, by decide⟩
def rangeNotSatisfiable : Status := ⟨416, by decide, by decide⟩
def internalServerError : Status := ⟨500, by decide, by decide⟩
def badGateway : Status := ⟨502, by decide, by decide⟩

end Status

end RuleGate
