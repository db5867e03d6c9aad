import RuleGate.Pattern.Escape

/-! # Bracketed sets

Inside brackets stand characters, ranges, escapes, named ASCII sets and brackets again. The
operators `&&`, `--` and `~~` join what stands left of them with the items up to the next operator
or the closing bracket. Depth counts brackets, operators and lists of two or more items.
-/
namespace RuleGate.Pattern

open Unicode

/-- A set and how deeply its text is nested. -/
structure Nested where
  set : Ranges
  depth : Nat

inductive SetOp where
  | inter | diff | symmDiff

def SetOp.apply : SetOp → Ranges → Ranges → Ranges
  | .inter, a, b => Ranges.inter a b
  | .diff, a, b => Ranges.diff a b
  | .symmDiff, a, b => Ranges.symmDiff a b

/-- The items since the last operator or opening bracket. -/
structure Items where
  ranges : Ranges := []
  count : Nat := 0
  depth : Nat := 0

def Items.add (i : Items) (r : Ranges) (depth : Nat) : Items :=
  ⟨r ++ i.ranges, i.count + 1, max i.depth depth⟩

def Items.close (i : Items) : Nested :=
  ⟨Ranges.ofList i.ranges, if 2 ≤ i.count then i.depth + 1 else i.depth⟩

/-- Join the items with what stands left of the last operator. -/
def Mode.closeItems (m : Mode) (left : Option (Nested × SetOp)) (i : Items) : Nested :=
  let right := i.close
  match left with
  | none => right
  | some (left, op) =>
    ⟨op.apply (m.fold left.set) (m.fold right.set), max left.depth right.depth + 1⟩

/-- The ASCII sets by name. -/
def asciiSet? : String → Option Ranges
  | "alnum" => some [(48, 57), (65, 90), (97, 122)]
  | "alpha" => some [(65, 90), (97, 122)]
  | "ascii" => some [(0, 127)]
  | "blank" => some [(9, 9), (32, 32)]
  | "cntrl" => some [(0, 31), (127, 127)]
  | "digit" => some [(48, 57)]
  | "graph" => some [(33, 126)]
  | "lower" => some [(97, 122)]
  | "print" => some [(32, 126)]
  | "punct" => some [(33, 47), (58, 64), (91, 96), (123, 126)]
  | "space" => some [(9, 13), (32, 32)]
  | "upper" => some [(65, 90)]
  | "word" => some [(48, 57), (65, 90), (95, 95), (97, 122)]
  | "xdigit" => some [(48, 57), (65, 70), (97, 102)]
  | _ => none

/-- A named ASCII set after `[:`: the set, whether it is negated, and the rest. -/
def asciiClass? (t : Text) : Option (Ranges × Bool × Text) :=
  let (negated, t) := match t with
    | '^' :: r => (true, r)
    | _ => (false, t)
  match Text.cut ':' t with
  | (name, some (']' :: rest)) => (asciiSet? (String.ofList name)).map (·, negated, rest)
  | _ => none

/-- The leading hyphens of a bracketed set, which mean themselves, and a closing bracket that
comes first. -/
def Mode.opening (m : Mode) : (fuel : Nat) → Items → Text → Option (Items × Text)
  | 0, _, _ => none
  | fuel + 1, items, t =>
    match t with
    | [] => none
    | '-' :: r => m.opening fuel (items.add [(45, 45)] 0) (m.skip r)
    | ']' :: r =>
      if items.count = 0 then
        match m.skip r with
        | [] => none
        | s => some (items.add [(93, 93)] 0, s)
      else some (items, t)
    | _ => some (items, t)

/-- The beginning of a bracketed set after its bracket: whether it is negated, and its first
items. -/
def Mode.openClass (m : Mode) (t : Text) : Option (Bool × Items × Text) := do
  let (negated, t) := match m.skip t with
    | '^' :: r => (true, m.skip r)
    | t => (false, t)
  let (items, t) ← m.opening (t.length + 1) {} t
  return (negated, items, t)

/-- One character or escape inside brackets. -/
def Mode.setItem (m : Mode) : Text → Option (Atom × Text)
  | [] => none
  | '\\' :: r => m.escape r
  | c :: r => some (.char c, r)

/-- The character after the next, past blanks and the signs of comments. -/
def Mode.peekNext (m : Mode) (t : Text) : Option Char :=
  if m.spaced then
    let blanks := t.dropWhile Text.isBlank
    match blanks with
    | '#' :: r => ((r.dropWhile Text.isBlank).head?).or t.head?
    | [] => t.head?
    | c :: _ => some c
  else t.head?

/-- A character of a bracketed set; outside Unicode mode it has to be ASCII. -/
def Mode.setChar? (m : Mode) : Atom → Option Nat
  | .char c => if m.unicode || c.toNat < 0x80 then some c.toNat else none
  | _ => none

/-- A character, a range or an escape inside brackets. -/
def Mode.setRange (m : Mode) (t : Text) : Option (Ranges × Text) := do
  let (first, t) ← m.setItem t
  match m.skip t with
  | [] => none
  | '-' :: r =>
    if m.peekNext r = some ']' ∨ m.peekNext r = some '-' then
      return (← single first, '-' :: r)
    let (second, rest) ← m.setItem (m.skip r)
    let lo ← m.setChar? first
    let hi ← m.setChar? second
    if hi < lo then none
    return ([(lo, hi)], rest)
  | t => return (← single first, t)
where
  single : Atom → Option Ranges
    | .set r => some r
    | a => (m.setChar? a).map fun n => [(n, n)]

/-- The set of a bracket that has been opened, up to its closing bracket. -/
def Mode.classBody (m : Mode) :
    (fuel : Nat) → Option (Nested × SetOp) → Items → Text → Option (Nested × Text)
  | 0, _, _, _ => none
  | fuel + 1, left, items, t =>
    match m.skip t with
    | [] => none
    | ']' :: r => some (m.closeItems left items, r)
    | '&' :: '&' :: r => m.classBody fuel (some (m.closeItems left items, .inter)) {} r
    | '-' :: '-' :: r => m.classBody fuel (some (m.closeItems left items, .diff)) {} r
    | '~' :: '~' :: r => m.classBody fuel (some (m.closeItems left items, .symmDiff)) {} r
    | '[' :: r =>
      match (match r with | ':' :: s => asciiClass? s | _ => none) with
      | some (set, negated, rest) => do
        let set ← m.negateIf? negated (m.fold set)
        m.classBody fuel left (items.add set 0) rest
      | none => do
        let (negated, first, s) ← m.openClass r
        let (inner, rest) ← m.classBody fuel none first s
        let set ← m.negateIf? negated (m.fold inner.set)
        m.classBody fuel left (items.add set (inner.depth + 1)) rest
    | t => do
      let (set, rest) ← m.setRange t
      m.classBody fuel left (items.add set 0) rest

/-- Read a bracketed set after its bracket. -/
def Mode.bracketed (m : Mode) (t : Text) : Option (Nested × Text) := do
  let (negated, first, s) ← m.openClass t
  let (inner, rest) ← m.classBody (s.length + 1) none first s
  return (⟨← m.negateIf? negated (m.fold inner.set), inner.depth + 1⟩, rest)

end RuleGate.Pattern
