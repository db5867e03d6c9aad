import RuleGate.Unicode.Sequences

/-! # Pattern expressions

A pattern is built from sets of characters, conditions on the place between two characters,
groups, sequences, alternatives in order of preference and repetitions. The size of an expression
estimates the memory of a matcher that reads bytes; patterns above a limit are refused.
-/
namespace RuleGate.Pattern

open Unicode

/-- A condition on the place between two characters. -/
inductive Look where
  | textStart | textEnd
  | lineStart (crlf : Bool) | lineEnd (crlf : Bool)
  | wordEdge (unicode : Bool) | noWordEdge (unicode : Bool)
  | wordStart (unicode : Bool) | wordEnd (unicode : Bool)
  | wordStartHalf (unicode : Bool) | wordEndHalf (unicode : Bool)
  deriving DecidableEq, Repr

inductive Expr where
  | empty
  | set (chars : Ranges)
  | look (condition : Look)
  | group (index : Nat) (body : Expr)
  | cat (first second : Expr)
  | alt (preferred other : Expr)
  | rep (min : Nat) (max : Option Nat) (greedy : Bool) (body : Expr)
  deriving Repr

namespace Expr

def char (c : Char) : Expr := .set [(c.toNat, c.toNat)]

/-- Some match of the expression may be the empty text. -/
def canBeEmpty : Expr → Bool
  | .empty | .look _ => true
  | .set _ => false
  | .group _ e => e.canBeEmpty
  | .cat a b => a.canBeEmpty && b.canBeEmpty
  | .alt a b => a.canBeEmpty || b.canBeEmpty
  | .rep min _ _ e => min == 0 || e.canBeEmpty

/-- Every match of the expression is the empty text. -/
def isEmptyOnly : Expr → Bool
  | .empty | .look _ => true
  | .set _ => false
  | .group _ e => e.isEmptyOnly
  | .cat a b | .alt a b => a.isEmptyOnly && b.isEmptyOnly
  | .rep _ _ _ e => e.isEmptyOnly

/-- A repetition; one of the empty text is taken at most once. -/
def repetition (min : Nat) (max : Option Nat) (greedy : Bool) (e : Expr) : Expr :=
  let (min, max) :=
    if e.isEmptyOnly then (Nat.min min 1, some ((max.map (Nat.min · 1)).getD 1)) else (min, max)
  if max = some 0 then .empty
  else if min = 1 ∧ max = some 1 then e
  else .rep min max greedy e

/-- Alternatives; single characters are put together in one set. -/
def alternative (a b : Expr) : Expr :=
  match a, b with
  | .set r, .set s => .set (Ranges.union r s)
  | a, b => .alt a b

/-- The memory for one set: a state for each beginning of a byte sequence and a branch for each
sequence; ASCII sets have one state with a branch for each range. -/
def setSize (r : Ranges) : Nat :=
  match Ranges.single? r with
  | some n => 32 * (Sequences.bytesOf n).length
  | none =>
    if List.all r fun p => p.2 < 0x80 then 64 + 8 * r.length
    else
      let sequences := Sequences.ofRanges r
      32 * Sequences.beginnings [] sequences + 4 * sequences.length + 64

def isAlt : Expr → Bool
  | .alt _ _ => true
  | _ => false

/-- The memory for a matcher of the expression, in bytes. -/
def size : Expr → Nat
  | .empty | .look _ => 32
  | .set r => setSize r
  | .group _ e => e.size + 64
  | .cat a b => a.size + b.size
  | .alt a b => a.size + b.size + if b.isAlt then 4 else 72
  | .rep min max _ e =>
    match max with
    | some m => min * e.size + (m - min) * (e.size + 40) + if m = min then 0 else 32
    | none =>
      if min = 0 then e.size + if e.canBeEmpty then 112 else 40
      else min * e.size + 40

/-- The largest size of a pattern that is accepted. -/
def maxSize : Nat := 10 * 1024 * 1024

end Expr

end RuleGate.Pattern
