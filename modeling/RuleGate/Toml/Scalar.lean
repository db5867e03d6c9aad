import RuleGate.Toml.Node

/-! # Scalars of TOML

Numbers, truth values and moments are read from the whole word in which they are written. Digits
may be grouped by single underscores, integers have 64 bits, and decimal numbers have no leading
zeros.
-/
namespace RuleGate.Toml

/-- The value of digits in a base, grouped by single underscores. -/
def digits? (base : Nat) (t : Text) : Option Nat :=
  (Text.splitAll '_' t).foldlM
    (fun n group =>
      if group.isEmpty then none
      else group.foldlM
        (fun n c => (Text.hexValue? c).bind fun d => if d < base then some (base * n + d) else none)
        n)
    0

/-- Decimal digits without leading zeros. -/
def plainDigits? (t : Text) : Option Nat :=
  match t with
  | '0' :: _ :: _ => none
  | t => digits? 10 t

/-- A sign and what follows it. -/
def sign : Text → Option Char × Text
  | '+' :: r => (some '+', r)
  | '-' :: r => (some '-', r)
  | t => (none, t)

def bounded? (n : Int) : Option Int :=
  if Int64.minValue.toInt ≤ n ∧ n ≤ Int64.maxValue.toInt then some n else none

def integer? (t : Text) : Option Int := do
  match t with
  | '0' :: 'x' :: r => bounded? (← digits? 16 r)
  | '0' :: 'o' :: r => bounded? (← digits? 8 r)
  | '0' :: 'b' :: r => bounded? (← digits? 2 r)
  | t =>
    let (s, r) := sign t
    let n ← plainDigits? r
    bounded? (if s = some '-' then -n else n)

/-- The exponent of a floating number is a sign and digits. -/
def isExponent (t : Text) : Bool := (digits? 10 (sign t).2).isSome

/-- Split at the first of either letter that marks an exponent. -/
def cutExponent (t : Text) : Text × Option Text :=
  Text.cut 'e' (t.map fun c => if c = 'E' then 'e' else c)

def isFloat (t : Text) : Bool :=
  let (_, r) := sign t
  if r == text "inf" || r == text "nan" then true
  else
    let (mantissa, exponent) := cutExponent r
    let (whole, fraction) := Text.cut '.' mantissa
    (plainDigits? whole).isSome && fraction.all (fun f => (digits? 10 f).isSome) &&
      exponent.all isExponent && (fraction.isSome || exponent.isSome)

/-- The value of exactly `count` digits. -/
def fixed? (count : Nat) (t : Text) : Option Nat :=
  if t.length = count ∧ t.all Text.isDigit then some (Text.decimal t) else none

def daysIn (year month : Nat) : Nat :=
  if month = 2 then if year % 4 = 0 ∧ (year % 100 ≠ 0 ∨ year % 400 = 0) then 29 else 28
  else if month = 4 ∨ month = 6 ∨ month = 9 ∨ month = 11 then 30 else 31

def isDate (t : Text) : Bool :=
  match Text.splitAll '-' t with
  | [y, m, d] =>
    match fixed? 4 y, fixed? 2 m, fixed? 2 d with
    | some y, some m, some d => 1 ≤ m && m ≤ 12 && 1 ≤ d && d ≤ daysIn y m
    | _, _, _ => false
  | _ => false

def isMinute (t : Text) : Bool := (fixed? 2 t).any (· < 60)

def isHour (t : Text) : Bool := (fixed? 2 t).any (· < 24)

def isTime (t : Text) : Bool :=
  match Text.splitAll ':' t with
  | [h, m, s] =>
    let (s, fraction) := Text.cut '.' s
    isHour h && isMinute m && (fixed? 2 s).any (· ≤ 60) &&
      fraction.all fun f => !f.isEmpty && f.all Text.isDigit
  | _ => false

/-- A time of the day, maybe with the distance from universal time. -/
def isTimeWithOffset (t : Text) : Bool :=
  let offset (c : Char) : Bool :=
    match Text.cut c t with
    | (time, some rest) =>
      isTime time &&
        match Text.splitAll ':' rest with
        | [h, m] => isHour h && isMinute m
        | _ => false
    | _ => false
  isTime t || offset '+' || offset '-' ||
    ((Text.dropLast? 'Z' t).or (Text.dropLast? 'z' t)).any isTime

/-- A date, a time, or both with a letter between them. -/
def isMoment (t : Text) : Bool :=
  isDate t || isTime t ||
    (isDate (t.take 10) &&
      match t.drop 10 with
      | 'T' :: r | 't' :: r => isTimeWithOffset r
      | _ => false)

/-- The scalar that a word is. -/
def word? (t : Text) : Option Node :=
  if t == text "true" then some (.boolean true)
  else if t == text "false" then some (.boolean false)
  else if isMoment t then some .moment
  else
    match integer? t with
    | some n => some (.integer n)
    | none => if isFloat t then some .float else none

end RuleGate.Toml
