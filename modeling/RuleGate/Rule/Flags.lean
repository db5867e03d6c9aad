import RuleGate.Http.Header
import RuleGate.Http.Status
import RuleGate.Rule.Error

/-! # Flag blocks

A block is a list of tokens between commas, with blanks around them. The token `H=` takes all that
is left of the block, commas included, so nothing follows it.
-/
namespace RuleGate

structure Flags where
  noCase : Bool := false
  last : Bool := false
  proxy : Bool := false
  redirect : Option Status := none
  forbidden : Bool := false
  gone : Bool := false
  contentType : Option Bytes := none
  host : Option Text := none
  deriving DecidableEq

namespace Flags

/-- The content type of a `T` without a value. -/
def plainText : Text := text "text/plain"

/-- The content type that a value after `T=` names. -/
def contentTypeOf (value : Text) : Except RuleFault Bytes :=
  let value := if (Text.trim value).isEmpty then plainText else Text.trim value
  if isFieldValue (Utf8.encode value) then .ok (Utf8.encode value)
  else .error (.invalidContentType value)

/-- The flags after one more token, which is trimmed and not `H=`. -/
def token (f : Flags) (t : Text) : Except RuleFault Flags :=
  match t with
  | [] => .ok f
  | ['N', 'C'] => .ok { f with noCase := true }
  | ['L'] => .ok { f with last := true }
  | ['P'] => .ok { f with proxy := true }
  | ['F'] => .ok { f with forbidden := true }
  | ['G'] => .ok { f with gone := true }
  | ['R'] => .ok { f with redirect := some .movedPermanently }
  | 'R' :: '=' :: code =>
    match Status.ofText? code with
    | some status => .ok { f with redirect := some status }
    | none => .error (.invalidRedirect code)
  | ['T'] => (contentTypeOf []).map fun v => { f with contentType := some v }
  | 'T' :: '=' :: value => (contentTypeOf value).map fun v => { f with contentType := some v }
  | t => .error (.unknownFlag t)

/-- The flags after the tokens between the commas of a block. -/
def tokens (f : Flags) : List Text → Except RuleFault Flags
  | [] => .ok f
  | t :: rest =>
    match Text.trim t with
    | 'H' :: '=' :: _ =>
      let host := (Text.trimStart (Text.joinWith [','] (t :: rest))).drop 2
      .ok { f with host := some (Text.trim host) }
    | t => f.token t >>= fun f => f.tokens rest

/-- Read the text between the brackets of a block. -/
def parse (block : Text) : Except RuleFault Flags := ({} : Flags).tokens (Text.splitAll ',' block)

end Flags

end RuleGate
