import RuleGate.Ip
import RuleGate.Url.Domain

/-! # Hosts

The host of a URL is a domain name or an address. A name whose last label is a number is an address
of version 4, the parts of which may be octal or hexadecimal and the last of which fills the bytes
that are left. An address of version 6 stands in brackets.
-/
namespace RuleGate

/-- Why a text is no URL. -/
inductive UrlFault where
  | relative
  | emptyHost
  | serviceNumber
  | v4Address
  | v6Address
  | domainName
  | domainCharacter
  deriving DecidableEq, Repr

def UrlFault.message : UrlFault → Text
  | .relative => text "relative URL without a base"
  | .emptyHost => text "empty host"
  | .serviceNumber => text "invalid port number"
  | .v4Address => text "invalid IPv4 address"
  | .v6Address => text "invalid IPv6 address"
  | .domainName => text "invalid international domain name"
  | .domainCharacter => text "invalid domain character"

inductive Host where
  | domain (name : Text)
  | v4 (number : Nat)
  | v6 (groups : List Nat)
  deriving DecidableEq

namespace Host

/-- The base and the digits of a part of an address. -/
def cutBase : Text → Nat × Text
  | '0' :: 'x' :: r | '0' :: 'X' :: r => (16, r)
  | '0' :: c :: r => (8, c :: r)
  | t => (10, t)

/-- The number that a part is. -/
def partNumber? (t : Text) : Option Nat :=
  let (base, digits) := cutBase t
  if t.isEmpty then none
  else
    digits.foldlM (fun n c => do
      let d ← Text.hexValue? c
      if d < base then some (base * n + d) else none) 0

/-- The parts between full stops; a full stop at the end opens no further part. -/
def parts (name : Text) : List Text :=
  let parts := Text.splitAll '.' name
  if parts.getLast? = some [] then parts.dropLast else parts

/-- Whether a name is to be read as an address. -/
def endsInNumber (name : Text) : Bool :=
  match (parts name).getLast? with
  | none => false
  | some part => (!part.isEmpty && part.all Text.isDigit) || (partNumber? part).isSome

/-- The number of the bytes in front and a last part that fills those left. -/
def v4Number? (parts : List Text) : Option Nat := do
  let numbers ← parts.mapM partNumber?
  let last ← numbers.getLast?
  let front := numbers.dropLast
  if 3 < front.length ∨ front.any (255 < ·) ∨ 1 <<< (8 * (4 - front.length)) ≤ last then none
  else return front.foldl (fun n b => 256 * n + b) 0 <<< (8 * (4 - front.length)) + last

/-- The address in brackets, if a text starts with one. -/
def bracketed? (t : Text) : Option (Except UrlFault Host) :=
  match t with
  | '[' :: r =>
    some (match (Text.dropLast? ']' r).bind Ip.v6? with
      | some groups => .ok (.v6 groups)
      | none => .error .v6Address)
  | _ => none

/-- Read the host of a scheme that has domain names. -/
def parse (t : Text) : Except UrlFault Host :=
  match bracketed? t with
  | some h => h
  | none =>
    match Domain.ofText? t with
    | none => .error .domainName
    | some [] => .error .emptyHost
    | some name =>
      if endsInNumber name then
        match v4Number? (parts name) with
        | some n => .ok (.v4 n)
        | none => .error .v4Address
      else .ok (.domain name)

/-- Check the host of another scheme, which is text without delimiters. -/
def checkOpaque (t : Text) : Except UrlFault Unit :=
  match bracketed? t with
  | some h => h.map fun _ => ()
  | none =>
    if t.any fun c => c.toNat == 0 || " \t\n\r#/:<>?@[\\]^|".contains c then .error .domainCharacter
    else .ok ()

/-- An empty name is no host. -/
def isMissing : Host → Bool
  | .domain name => name.isEmpty
  | _ => false

def toText : Host → Text
  | .domain name => name
  | .v4 n => Ip.v4Text n
  | .v6 groups => ['['] ++ Ip.v6Text groups ++ [']']

end Host

end RuleGate
