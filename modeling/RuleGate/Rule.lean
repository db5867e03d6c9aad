import RuleGate.Rule.Flags
import RuleGate.Rule.Replacement

/-! # Rules

A directive has a pattern, a replacement and an optional block of flags in brackets. A pattern
after an exclamation mark is inverted: its rule fires where the pattern does not match.
-/
namespace RuleGate

/-- What a rule does when it fires. -/
inductive Action where
  | replace
  | proxy
  | redirect (status : Status)
  | forbidden
  | gone
  deriving DecidableEq

/-- The strongest action wins: gone, forbidden, proxy, redirect, then replacement. -/
def Flags.action (f : Flags) : Action :=
  if f.gone then .gone
  else if f.forbidden then .forbidden
  else if f.proxy then .proxy
  else match f.redirect with
    | some status => .redirect status
    | none => .replace

structure Rule where
  directive : Text
  pattern : Pattern
  replacement : Text
  inverted : Bool
  last : Bool
  action : Action
  contentType : Option Bytes
  host : Option Pattern

namespace Rule

/-- The next field and what follows it; there is none when only blanks are left. -/
def nextField (t : Text) : Option (Text × Text) :=
  let t := Text.trimStart t
  if t.isEmpty then none else some (t.takeWhile (!Text.isBlank ·), t.dropWhile (!Text.isBlank ·))

/-- The inside of a field in brackets. -/
def bracketed? : Text → Option Text
  | '[' :: t => Text.dropLast? ']' t
  | _ => none

/-- A field without its exclamation mark, and whether there was one. -/
def inversion : Text → Bool × Text
  | '!' :: p => (true, p)
  | p => (false, p)

/-- The rule of a trimmed directive. A third field has to be a block; without one a bracketed
replacement is read as a block too, in which `NC` has no effect. -/
def ofDirective (directive : Text) : Except RuleFault Rule := do
  let some (first, rest) := nextField directive | throw .missingReplacement
  let some (replacement, rest) := nextField rest | throw .missingReplacement
  let trailing := Text.trim rest
  let flags ←
    if trailing.isEmpty then
      match bracketed? replacement with
      | some block => Flags.parse block
      | none => pure {}
    else
      match bracketed? trailing with
      | some block => Flags.parse block
      | none => throw (.unknownFlag trailing)
  let (inverted, source) := inversion first
  let some pattern := Pattern.parse? (flags.noCase && !trailing.isEmpty) source
    | throw (.invalidPattern source)
  let host ← match flags.host with
    | none => pure none
    | some source =>
      match Pattern.parse? false source with
      | some host => pure (some host)
      | none => throw (.invalidHostPattern source)
  return {
    directive, pattern, replacement, inverted, last := flags.last, action := flags.action,
    contentType := flags.contentType, host }

/-- Compile the directive with a number. -/
def parse (directive : Text) (line : Nat) : Except RuleError Rule :=
  let directive := Text.trim directive
  (ofDirective directive).mapError fun fault => { line, directive, fault }

/-- A host is refused only by a filter that it does not match. -/
def acceptsHost (r : Rule) (host : Text) : Bool :=
  match r.host with
  | none => true
  | some p => p.isMatch host

def isMatch (r : Rule) (url : Text) : Bool := r.pattern.isMatch url

/-- The template of the replacement for the groups of the pattern. -/
def template (r : Rule) : Template :=
  Template.ofText r.pattern.group? (Replacement.toTemplate r.replacement)

/-- A URL with the first match of the pattern replaced. -/
def substitute (r : Rule) (url : Text) : Text := r.pattern.substitute r.template url

/-- Rules are equal when their directives are. -/
instance : BEq Rule := ⟨fun a b => a.directive == b.directive⟩

end Rule

/-- Rules in the order in which they are tried. -/
abbrev RuleSet := List Rule

namespace RuleSet

/-- Compile directives whose first has number `line`. -/
def compileFrom : (line : Nat) → List Text → Except RuleError RuleSet
  | _, [] => .ok []
  | line, d :: ds => do
    let rule ← Rule.parse d line
    return rule :: (← compileFrom (line + 1) ds)

/-- Compile directives in order; the first invalid one fails the whole set. -/
def compile (directives : List Text) : Except RuleError RuleSet := compileFrom 1 directives

end RuleSet

end RuleGate
