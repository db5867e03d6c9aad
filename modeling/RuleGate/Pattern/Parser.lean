import RuleGate.Pattern.Class

/-! # Reading patterns

A pattern is read from the left with a stack of open groups. Flags hold from their place to the
end of the enclosing group. A pattern is refused when its groups, repetitions, sequences,
alternatives and bracketed sets nest more than 250 deep, and when a matcher for it would be too
large.
-/
namespace RuleGate.Pattern

open Unicode

/-- An expression read, how deeply it is nested, and whether it can be repeated: flags that stand
alone cannot. -/
structure Item where
  expr : Expr
  depth : Nat
  repeatable : Bool := true

/-- The branches closed and the items of the open one in a group, latest first. -/
structure Branches where
  closed : List Item := []
  items : List Item := []

def Item.deepest (l : List Item) : Nat := (l.map Item.depth).foldl max 0

/-- The items of the open branch in sequence. -/
def Branches.sequence (b : Branches) : Item :=
  match b.items with
  | [] => ⟨.empty, 0, true⟩
  | [i] => i
  | i :: r => ⟨r.foldl (fun e i => .cat i.expr e) i.expr, Item.deepest b.items + 1, true⟩

/-- The group closed at its end. -/
def Branches.close (b : Branches) : Item :=
  let last := b.sequence
  match b.closed with
  | [] => last
  | l =>
    ⟨l.foldl (fun e i => .alternative i.expr e) last.expr, Item.deepest (last :: l) + 1, true⟩

/-- A group that is open around the present place: its number if it captures, the mode before it
and the branches around it. -/
structure Outer where
  index : Option Nat
  mode : Mode
  branches : Branches

/-- Alphabetic characters; in ASCII these are the letters. -/
def isAlphabetic (c : Char) : Bool :=
  if c.toNat < 0x80 then Text.isLetter c else Ranges.contains Property.alphabetic c.toNat

/-- Characters of group names; the first is a letter or an underscore. -/
def isNameChar (first : Bool) (c : Char) : Bool :=
  c == '_' || isAlphabetic c ||
    (!first && (c == '.' || c == '[' || c == ']' ||
      Ranges.contains (Category.ranges ["Nd", "Nl", "No"]) c.toNat))

/-- The name of a group. -/
structure GroupName where
  first : Char
  rest : Text
  isFirst : isNameChar true first = true

def GroupName.text (n : GroupName) : Text := n.first :: n.rest

/-- The state of the reading; the names of groups stand with their numbers. -/
structure State where
  mode : Mode
  branches : Branches := {}
  outer : List Outer := []
  groups : Nat := 0
  names : List (GroupName × Nat) := []

namespace State

def push (s : State) (i : Item) : State :=
  { s with branches := { s.branches with items := i :: s.branches.items } }

/-- Enter a group. -/
def enter (s : State) (index : Option Nat) (mode : Mode) : State :=
  { s with mode, branches := {}, outer := ⟨index, s.mode, s.branches⟩ :: s.outer }

/-- Leave the innermost group. -/
def leave (s : State) : Option State :=
  match s.outer with
  | [] => none
  | o :: outer =>
    let body := s.branches.close
    let expr := match o.index with
      | some i => .group i body.expr
      | none => body.expr
    some ({ s with mode := o.mode, branches := o.branches, outer }.push
      ⟨expr, body.depth + 1, true⟩)

/-- Close the open branch at a bar. -/
def branch (s : State) : State :=
  { s with branches := ⟨s.branches.sequence :: s.branches.closed, []⟩ }

/-- Repeat the latest item. -/
def repeatLast (s : State) (min : Nat) (max : Option Nat) (greedy : Bool) : Option State :=
  match s.branches.items with
  | [] => none
  | i :: r =>
    if i.repeatable then
      let expr := i.expr.repetition min max (greedy != s.mode.swapGreed)
      some { s with branches := { s.branches with items := ⟨expr, i.depth + 1, true⟩ :: r } }
    else none

end State

/-- The mode with one flag set or cleared. -/
def Mode.withFlag? (m : Mode) (on : Bool) : Char → Option Mode
  | 'i' => some { m with caseless := on }
  | 'm' => some { m with multiLine := on }
  | 's' => some { m with dotAll := on }
  | 'U' => some { m with swapGreed := on }
  | 'u' => some { m with unicode := on }
  | 'R' => some { m with crlf := on }
  | 'x' => some { m with spaced := on }
  | _ => none

/-- The flags after `(?`, each at most once, up to `:` or `)`. A hyphen clears those after it, of
which there has to be one. -/
def Mode.flags (m : Mode) (seen : Text) : Text → Option (Mode × Text × Char × Text)
  | [] => none
  | c :: r =>
    if c = ':' ∨ c = ')' then
      if seen.head? = some '-' then none else some (m, seen, c, r)
    else if seen.contains c then none
    else if c = '-' then m.flags (c :: seen) r
    else
      match m.withFlag? (!seen.contains '-') c with
      | some m => m.flags (c :: seen) r
      | none => none

/-- The name of a group up to its closing angle. -/
def groupName? (t : Text) : Option (GroupName × Text) :=
  match Text.cut '>' t with
  | (c :: name, some rest) =>
    if h : isNameChar true c = true then
      if name.all (isNameChar false) then some (⟨c, name, h⟩, rest) else none
    else none
  | _ => none

/-- What follows an opening parenthesis. -/
def State.openGroup (s : State) (t : Text) : Option (State × Text) :=
  let t := s.mode.skip t
  let named (r : Text) : Option (State × Text) := do
    let (name, rest) ← groupName? r
    if s.names.any fun n => n.1.text == name.text then none
    let i := s.groups + 1
    return ({ s with groups := i, names := (name, i) :: s.names }.enter (some i) s.mode, rest)
  match t with
  | '?' :: '=' :: _ | '?' :: '!' :: _ | '?' :: '<' :: '=' :: _ | '?' :: '<' :: '!' :: _ => none
  | '?' :: 'P' :: '<' :: r => named r
  | '?' :: '<' :: r => named r
  | '?' :: r => do
    let (mode, seen, stop, rest) ← s.mode.flags [] r
    if stop = ':' then return (s.enter none mode, rest)
    if seen.isEmpty then none
    return ({ s with mode }.push ⟨.empty, 0, false⟩, rest)
  | t =>
    let i := s.groups + 1
    some ({ s with groups := i }.enter (some i) s.mode, t)

/-- Decimal digits after `n`, without what the mode skips. -/
def Mode.digits (m : Mode) : (fuel : Nat) → (n : Option Nat) → Text → Option Nat × Text
  | 0, n, t => (n, t)
  | fuel + 1, n, t =>
    match t with
    | c :: r =>
      if Text.isDigit c then m.digits fuel (some (10 * n.getD 0 + (c.toNat - 48))) (m.skip r)
      else (n, t)
    | [] => (n, [])

/-- A number with blanks around it; absent without digits, refused from 2^32 on. -/
def Mode.number (m : Mode) (t : Text) : Option (Option Nat × Text) :=
  let (n, rest) := m.digits (t.length + 1) none (t.dropWhile Text.isBlank)
  if n.any (UInt32.size ≤ ·) then none
  else some (n, m.skip (rest.dropWhile Text.isBlank))

/-- A question mark after a repetition makes it prefer the shorter match. -/
def lazyMark : Text → Bool × Text
  | '?' :: r => (false, r)
  | t => (true, t)

/-- The bounds of a counted repetition after its brace. -/
def Mode.bounds (m : Mode) (t : Text) : Option (Nat × Option Nat × Text) := do
  let (min, t) ← m.number (m.skip t)
  let min ← min
  match t with
  | '\x7d' :: r => return (min, some min, r)
  | ',' :: r =>
    match m.skip r with
    | '\x7d' :: rest => return (min, none, rest)
    | r =>
      let (max, t) ← m.number r
      match max, t with
      | some max, '\x7d' :: rest => if min ≤ max then return (min, some max, rest) else none
      | _, _ => none
  | _ => none

/-- The condition that a circumflex or a dollar sign stands for. -/
def Mode.anchor (m : Mode) (first : Bool) : Look :=
  if m.multiLine then (if first then .lineStart m.crlf else .lineEnd m.crlf)
  else if first then .textStart else .textEnd

/-- The characters that a dot stands for; outside Unicode mode it could break characters up. -/
def Mode.dot? (m : Mode) : Option Ranges :=
  if !m.unicode then none
  else if m.dotAll then some Ranges.all
  else if m.crlf then some (Ranges.complement [(10, 10), (13, 13)])
  else some (Ranges.complement [(10, 10)])

/-- One character that means itself, in both cases where the mode asks for it. -/
def Mode.char (m : Mode) (c : Char) : Expr := .set (m.fold [(c.toNat, c.toNat)])

def Mode.atom (m : Mode) : Atom → Expr
  | .char c => m.char c
  | .set r => .set r
  | .look l => .look l

/-- Read one element of a pattern from its first character. -/
def State.element (s : State) (c : Char) (r : Text) : Option (State × Text) :=
  let m := s.mode
  let simple (e : Expr) (rest : Text) : Option (State × Text) := some (s.push ⟨e, 0, true⟩, rest)
  let repeated (min : Nat) (max : Option Nat) : Option (State × Text) :=
    let (greedy, rest) := lazyMark r
    (s.repeatLast min max greedy).map (·, rest)
  match c with
  | '(' => s.openGroup r
  | ')' => s.leave.map (·, r)
  | '|' => some (s.branch, r)
  | '[' => (m.bracketed r).map fun (set, rest) => (s.push ⟨.set set.set, set.depth, true⟩, rest)
  | '?' => repeated 0 (some 1)
  | '*' => repeated 0 none
  | '+' => repeated 1 none
  | '\x7b' => do
    let (min, max, rest) ← m.bounds r
    let (greedy, rest) := lazyMark (m.skip rest)
    return (← s.repeatLast min max greedy, rest)
  | '\\' => do
    let (a, rest) ← m.escape r
    simple (m.atom a) rest
  | '.' => do simple (.set (← m.dot?)) r
  | '^' => simple (.look (m.anchor true)) r
  | '$' => simple (.look (m.anchor false)) r
  | c => simple (m.char c) r

/-- Read the elements of a pattern, of which there are at most `fuel`. -/
def State.elements : (fuel : Nat) → State → Text → Option State
  | 0, _, _ => none
  | fuel + 1, s, t =>
    match s.mode.skip t with
    | [] => some s
    | c :: r =>
      match s.element c r with
      | some (s, rest) => s.elements fuel rest
      | none => none

/-- How deeply a pattern may be nested. -/
def maxDepth : Nat := 250

/-- The expression of a pattern, the number of its groups and the names of those that have one. -/
def read? (caseless : Bool) (t : Text) : Option (Expr × Nat × List (GroupName × Nat)) := do
  let s ← State.elements (t.length + 1) { mode := { caseless } } t
  if !s.outer.isEmpty then none
  let top := s.branches.close
  if maxDepth < top.depth ∨ Expr.maxSize < top.expr.size then none
  return (top.expr, s.groups, s.names)

end RuleGate.Pattern
