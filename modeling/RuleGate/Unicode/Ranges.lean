import RuleGate.Text.Basic

/-! # Sets of code points as ranges

A set is a list of closed ranges in increasing order with a gap between neighbours. `ofList` puts
any list into that form, and the Boolean operations go through it and the complement.
-/
namespace RuleGate.Unicode

/-- Closed ranges of code points. -/
abbrev Ranges := List (Nat × Nat)

namespace Ranges

/-- Join touching neighbours of a list sorted by lower end. -/
def join : Ranges → Ranges
  | [] => []
  | (lo, hi) :: r => go lo hi r []
where
  go (lo hi : Nat) : Ranges → Ranges → Ranges
    | [], acc => ((lo, hi) :: acc).reverse
    | (a, b) :: r, acc =>
      if a ≤ hi + 1 then go lo (max hi b) r acc else go a b r ((lo, hi) :: acc)

/-- The set of the code points in any of the ranges. -/
def ofList (r : Ranges) : Ranges :=
  join ((r.filter fun p => p.1 ≤ p.2).mergeSort fun p q => p.1 ≤ q.1)

def contains : Ranges → Nat → Bool
  | [], _ => false
  | (lo, hi) :: r, n => if n < lo then false else if n ≤ hi then true else contains r n

/-- The points from `lo` up to `last` that lie in no range. -/
def gaps (last : Nat) (r : Ranges) : Ranges :=
  let rec go : Nat → Ranges → Ranges → Ranges
    | lo, [], acc => (if lo ≤ last then (lo, last) :: acc else acc).reverse
    | lo, (a, b) :: s, acc => go (b + 1) s (if lo < a then (lo, a - 1) :: acc else acc)
  go 0 r []

def union (a b : Ranges) : Ranges := ofList (a ++ b)

/-- The code points that are not scalar values. -/
def surrogates : Ranges := [(0xD800, 0xDFFF)]

/-- The scalar values outside a set. -/
def complement (a : Ranges) : Ranges := gaps 0x10FFFF (union a surrogates)

def inter (a b : Ranges) : Ranges := complement (union (complement a) (complement b))

def diff (a b : Ranges) : Ranges := inter a (complement b)

def symmDiff (a b : Ranges) : Ranges := union (diff a b) (diff b a)

def all : Ranges := complement []

/-- The number of code points in a set. -/
def size (a : Ranges) : Nat := a.foldr (fun p n => p.2 + 1 - p.1 + n) 0

/-- The only member of a set of one. -/
def single? : Ranges → Option Nat
  | [(lo, hi)] => if lo = hi then some lo else none
  | _ => none

end Ranges

/-! ## Written tables -/

def readHex (t : Text) : Nat := t.foldl (fun n c => 16 * n + (Text.hexValue? c).getD 0) 0

/-- What an entry of a table stands for: a number, a range with `-` between its ends, or with `:`
every second number of one. -/
def readSpan (t : Text) : Ranges :=
  match Text.cut '-' t, Text.cut ':' t with
  | (first, some last), _ => [(readHex first, readHex last)]
  | _, (first, some last) =>
    (List.range' (readHex first) ((readHex last - readHex first) / 2 + 1) 2).map fun n => (n, n)
  | (only, none), _ => [(readHex only, readHex only)]

/-- The entries of a table, with blanks between. -/
def readRanges (s : String) : Ranges := (Text.splitAll ' ' (text s)).flatMap readSpan

/-- The runs of a table: the length of each in lower-case hexadecimal digits, of which the first
is 0 to 9, then its name, which starts with a capital. -/
def readRuns (s : String) : List (Nat × String) :=
  let rec go : List Char → Nat → List Char → List (Nat × String) → List (Nat × String)
    | [], n, name, acc => ((n, String.ofList name.reverse) :: acc).reverse
    | c :: r, n, name, acc =>
      if 'a' ≤ c ∧ c ≤ 'f' ∧ name.isEmpty then go r (16 * n + (c.toNat - 87)) [] acc
      else if '0' ≤ c ∧ c ≤ '9' then
        if name.isEmpty then go r (16 * n + (c.toNat - 48)) [] acc
        else go r (c.toNat - 48) [] ((n, String.ofList name.reverse) :: acc)
      else go r n (c :: name) acc
  go s.toList 0 [] []

end RuleGate.Unicode
