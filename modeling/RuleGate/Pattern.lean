import RuleGate.Pattern.Parser
import RuleGate.Pattern.Search

/-! # Patterns

A pattern is a regular expression, searched for in a text without regard to where it begins.
-/
namespace RuleGate

/-- A pattern with its source, the number of its groups and their names. -/
structure Pattern where
  source : Text
  caseless : Bool
  expr : Pattern.Expr
  groups : Nat
  names : List (Pattern.GroupName × Nat) := []
  program : Pattern.Program := expr.program

namespace Pattern

/-- Where a match lies in a text, and where its groups do; group 0 is the whole match. -/
structure Match where
  start : Nat
  stop : Nat
  groups : List (Option (Nat × Nat))
  deriving Repr, DecidableEq

/-- The pattern with a source, if it is well formed and not too large. -/
def parse? (caseless : Bool) (source : Text) : Option Pattern :=
  (read? caseless source).map fun (expr, groups, names) =>
    { source, caseless, expr, groups, names }

/-- Neighbouring slots as the spans of groups. -/
def spans : Slots → List (Option (Nat × Nat))
  | some a :: some b :: r => some (a, b) :: spans r
  | _ :: _ :: r => none :: spans r
  | _ => []

/-- The leftmost match in a text. -/
def find? (p : Pattern) (t : Text) : Option Match :=
  match (p.program.search p.groups t).map spans with
  | some (some (a, b) :: groups) => some ⟨a, b, some (a, b) :: groups⟩
  | _ => none

def isMatch (p : Pattern) (t : Text) : Bool := (p.find? t).isSome

/-- The part of a text between two places. -/
def slice (t : Text) (span : Nat × Nat) : Text := (t.drop span.1).take (span.2 - span.1)

/-- The text of a group; empty if there is no such group or it took no part in the match. -/
def Match.group (m : Match) (t : Text) (i : Nat) : Text :=
  match m.groups[i]? with
  | some (some span) => slice t span
  | _ => []

end Pattern

end RuleGate
