import RuleGate.Text.Basic

/-! # Internet addresses

Addresses of version 4 are four octets in decimal. Those of version 6 are eight groups in
hexadecimal: a run of groups that are zero may be left out once, and the last two groups may be
written as octets.
-/
namespace RuleGate.Ip

/-- A number in decimal digits up to `limit`. -/
def number? (limit : Nat) (t : Text) : Option Nat :=
  if t.isEmpty || !t.all Text.isDigit || limit < Text.decimal t then none
  else some (Text.decimal t)

/-- An octet has no leading zeros. -/
def octet? (t : Text) : Option Nat :=
  match t with
  | '0' :: _ :: _ => none
  | t => number? 255 t

def octets? (t : Text) : Option (List Nat) :=
  let parts := Text.splitAll '.' t
  if parts.length = 4 then parts.mapM octet? else none

/-- A group has up to four digits. -/
def group? (t : Text) : Option Nat :=
  if t.isEmpty || 4 < t.length then none
  else t.foldlM (fun n c => (Text.hexValue? c).map (16 * n + ·)) 0

/-- Groups between colons, the last two of which may be octets. -/
def groups? (t : Text) : Option (List Nat) :=
  if t.isEmpty then some []
  else
    let parts := Text.splitAll ':' t
    match parts.getLast?, octets? (parts.getLast?.getD []) with
    | some _, some [a, b, c, d] => do
      return (← parts.dropLast.mapM group?) ++ [256 * a + b, 256 * c + d]
    | _, _ => parts.mapM group?

/-- Split at the first pair of colons. -/
def cutGap : Text → Text × Option Text
  | ':' :: ':' :: r => ([], some r)
  | c :: r => let (a, b) := cutGap r; (c :: a, b)
  | [] => ([], none)

/-- The eight groups of an address. Octets end an address, so none stand before a gap, and a gap
is at least one group wide. -/
def v6? (t : Text) : Option (List Nat) :=
  match cutGap t with
  | (all, none) => (groups? all).bind fun g => if g.length = 8 then some g else none
  | (front, some back) =>
    match groups? front, groups? back with
    | some g, some h =>
      if front.contains '.' ∨ 7 < g.length + h.length then none
      else some (g ++ List.replicate (8 - g.length - h.length) 0 ++ h)
    | _, _ => none

/-- The octets of a number of 32 bits, written with dots. -/
def v4Text (n : Nat) : Text :=
  Text.joinWith ['.'] ([16777216, 65536, 256, 1].map fun d => Text.ofNat (n / d % 256))

/-- The leading zeros of a list. -/
def zeros (l : List Nat) : Nat := (l.takeWhile (· == 0)).length

/-- The length of the longest run of zeros. -/
def longestRun : List Nat → Nat
  | [] => 0
  | a :: l => max (zeros (a :: l)) (longestRun l)

/-- Split before the first run of `n` zeros and after it. -/
def cutRun (n : Nat) : List Nat → List Nat × List Nat
  | [] => ([], [])
  | a :: l =>
    if zeros (a :: l) = n then ([], (a :: l).drop n)
    else let (front, back) := cutRun n l; (a :: front, back)

/-- The groups of an address with the first longest run of zeros left out, if it has two or more. -/
def v6Text (groups : List Nat) : Text :=
  let write (l : List Nat) : Text := Text.joinWith [':'] (l.map fun n => Nat.toDigits 16 n)
  let run := longestRun groups
  if run < 2 then write groups
  else
    let (front, back) := cutRun run groups
    write front ++ [':', ':'] ++ write back

end RuleGate.Ip
