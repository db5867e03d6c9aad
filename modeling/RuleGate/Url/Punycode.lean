import RuleGate.Text.Basic

/-! # Punycode

A label with characters outside ASCII is written as its ASCII characters, a hyphen and a sequence
of numbers, which say in increasing order of code points where the others go. A number is a run
of digits to base 36 whose last digit is below a threshold, and the thresholds follow a bias that
depends on the number before.
-/
namespace RuleGate.Punycode

def digit? (c : Char) : Option Nat :=
  if Text.isDigit c then some (c.toNat - 22)
  else if Text.isLetter c then some ((Text.lowerChar c).toNat - 97)
  else none

def digitChar (d : Nat) : Char := if d < 26 then Char.ofNat (97 + d) else Char.ofNat (22 + d)

/-- The least value of a digit after which a number goes on; `k` is 36 times its place. -/
def threshold (bias k : Nat) : Nat := min 26 (max 1 (k - bias))

theorem threshold_pos (bias k : Nat) : 0 < threshold bias k := by
  unfold threshold
  omega

/-- The bias for a difference that has been scaled. -/
def scale (delta k : Nat) : Nat :=
  if 455 < delta then scale (delta / 35) (k + 36) else k + 36 * delta / (delta + 38)
termination_by delta
decreasing_by omega

/-- The bias after a number, which is the first or not, when there are `points` characters. -/
def adapt (delta points : Nat) (first : Bool) : Nat :=
  let delta := if first then delta / 700 else delta / 2
  scale (delta + delta / points) 0

/-- The number at the front of a text and the rest; `weight` is the value of one in place `k`. -/
def number? (bias : Nat) : (k weight sum : Nat) → Text → Option (Nat × Text)
  | _, _, _, [] => none
  | k, weight, sum, c :: r =>
    match digit? c with
    | none => none
    | some d =>
      let t := threshold bias k
      let sum := sum + d * weight
      if d < t then some (sum, r) else number? bias (k + 36) (weight * (36 - t)) sum r

/-- Read numbers and put a character in its place for each. The last one that was put is `point`,
and the next may go in at `place`. -/
def insertAll : (fuel point place bias : Nat) → (out digits : Text) → Option Text
  | _, _, _, _, out, [] => some out
  | 0, _, _, _, _, _ => none
  | fuel + 1, point, place, bias, out, digits =>
    match number? bias 36 1 0 digits with
    | none => none
    | some (delta, rest) =>
      let size := out.length + 1
      let next := point + (place + delta) / size
      let here := (place + delta) % size
      if 0x10FFFF < next ∨ (0xD800 ≤ next ∧ next ≤ 0xDFFF) then none
      else
        insertAll fuel next (here + 1) (adapt delta size (place == 0))
          (out.take here ++ Char.ofNat next :: out.drop here) rest

/-- The text before the last hyphen and the one after it. -/
def cutLastHyphen (t : Text) : Text × Text :=
  if t.contains '-' then
    (((t.reverse.dropWhile (· != '-')).drop 1).reverse, (t.reverse.takeWhile (· != '-')).reverse)
  else ([], t)

/-- The label that a text without characters outside ASCII stands for. -/
def decode? (t : Text) : Option Text :=
  let (basic, digits) := cutLastHyphen t
  if t.head? = some '-' ∧ basic.isEmpty then none
  else insertAll (digits.length + 1) 128 0 72 basic digits

/-- The digits of a number. -/
def digits (bias k n : Nat) : Text :=
  if n < threshold bias k then [digitChar n]
  else
    digitChar (threshold bias k + (n - threshold bias k) % (36 - threshold bias k)) ::
      digits bias (k + 36) ((n - threshold bias k) / (36 - threshold bias k))
termination_by n
decreasing_by
  have h := threshold_pos bias k
  exact Nat.lt_of_le_of_lt (Nat.div_le_self _ _) (by omega)

/-- The numbers written so far, with the difference that the next one starts from. -/
structure Writing where
  out : Text
  delta : Nat
  bias : Nat
  done : Nat

/-- Write the number of a character if it is `point`; the smaller ones are places to pass. -/
def Writing.pass (point basics : Nat) (w : Writing) (c : Char) : Writing :=
  if c.toNat < point then { w with delta := w.delta + 1 }
  else if c.toNat = point then
    ⟨w.out ++ digits w.bias 36 w.delta, 0, adapt w.delta (w.done + 1) (w.done == basics),
      w.done + 1⟩
  else w

/-- Write the numbers of code points in increasing order, the first of which is at least `point`. -/
def Writing.addAll (label : Text) (basics : Nat) : (point : Nat) → List Nat → Writing → Writing
  | _, [], w => w
  | point, next :: r, w =>
    let w := { w with delta := w.delta + (next - point) * (w.done + 1) }
    let w := label.foldl (Writing.pass next basics) w
    addAll label basics (next + 1) r { w with delta := w.delta + 1 }

/-- Write a label in ASCII. -/
def encode (label : Text) : Text :=
  let basic := label.filter (·.toNat < 0x80)
  let points := ((label.map Char.toNat).filter (0x80 ≤ ·)).mergeSort.eraseDups
  basic ++ (if basic.isEmpty then [] else ['-']) ++
    (Writing.addAll label basic.length 128 points ⟨[], 0, 72, basic.length⟩).out

end RuleGate.Punycode
