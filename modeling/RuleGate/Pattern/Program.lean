import RuleGate.Pattern.Expr

/-! # Matching programs

An expression becomes a list of instructions, each with the number of the next one. A branch names
the preferred instruction first. Instructions are emitted from the end of the pattern backwards.
-/
namespace RuleGate.Pattern

open Unicode

inductive Instruction where
  | set (chars : Ranges) (next : Nat)
  | look (condition : Look) (next : Nat)
  | save (slot next : Nat)
  | branch (preferred other : Nat)
  | accept

/-- The instructions and the number of the first. -/
structure Program where
  instructions : Array Instruction
  start : Nat

/-- A branch into a repetition or past it. -/
def Instruction.choice (greedy : Bool) (inside past : Nat) : Instruction :=
  if greedy then .branch inside past else .branch past inside

/-- Emit the instructions of an expression before instruction `next`; the number of the first
comes back. -/
def Expr.emit : Expr → (next : Nat) → Array Instruction → Nat × Array Instruction
  | .empty, next, p => (next, p)
  | .set r, next, p => (p.size, p.push (.set r next))
  | .look l, next, p => (p.size, p.push (.look l next))
  | .group i e, next, p =>
    let (first, q) := e.emit p.size (p.push (.save (2 * i + 1) next))
    (q.size, q.push (.save (2 * i) first))
  | .cat a b, next, p =>
    let (middle, q) := b.emit next p
    a.emit middle q
  | .alt a b, next, p =>
    let (first, q) := a.emit next p
    let (second, q) := b.emit next q
    (q.size, q.push (.branch first second))
  | .rep min (some max) greedy e, next, p =>
    let optional := Nat.repeat
      (fun (first, q) =>
        let (inside, q) := e.emit first q
        (q.size, q.push (.choice greedy inside next)))
      (max - min) (next, p)
    Nat.repeat (fun (first, q) => e.emit first q) min optional
  | .rep min none greedy e, next, p =>
    let loop := p.size
    let (inside, q) := e.emit loop (p.push .accept)
    let q := q.setIfInBounds loop (.choice greedy inside next)
    if 0 < min then Nat.repeat (fun (first, q) => e.emit first q) (min - 1) (inside, q)
    else if e.canBeEmpty then (q.size, q.push (.choice greedy inside next))
    else (loop, q)

/-- The program of an expression. -/
def Expr.program (e : Expr) : Program :=
  let (start, p) := e.emit 0 #[.accept]
  ⟨p, start⟩

end RuleGate.Pattern
