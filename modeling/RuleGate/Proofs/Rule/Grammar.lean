import RuleGate.Proofs.Text.Blank
import RuleGate.Rule

/-! # The grammar of directives

A directive is a pattern, a replacement and possibly a block of flags in brackets, with blanks
between. The block is a list of tokens between commas, with blanks around each; a filter for the
host may end it and then takes all that is left, commas and brackets included. Which codes a
redirect may name is left open, as is the way in which a directive is read.
-/
namespace RuleGate

namespace Text

def inBrackets (inner : Text) : Text := '[' :: inner ++ [']']

end Text

structure Status.IsCode (code : Text) : Prop where
  length_eq : code.length = 3
  all_isDigit : code.all Text.isDigit = true
  atLeast : 100 ≤ Text.decimal code

def Status.digits (code : Text) : Text := if code.head? = some '+' then code.tail else code

/-- The digits of a number from 100 to 999, perhaps after zeros and a plus sign. -/
structure Status.IsNumeral (code : Text) : Prop where
  ne_nil : digits code ≠ []
  all_isDigit : (digits code).all Text.isDigit = true
  atLeast : 100 ≤ Text.decimal (digits code)
  below : Text.decimal (digits code) < 1000

inductive FlagToken where
  | blank
  | noCase
  | last
  | proxy
  | forbidden
  | gone
  | redirect (code : Option Text)
  | contentType (value : Option Text)
  deriving DecidableEq

namespace FlagToken

def toText : FlagToken → Text
  | .blank => []
  | .noCase => ['N', 'C']
  | .last => ['L']
  | .proxy => ['P']
  | .forbidden => ['F']
  | .gone => ['G']
  | .redirect none => ['R']
  | .redirect (some code) => 'R' :: '=' :: code
  | .contentType none => ['T']
  | .contentType (some value) => 'T' :: '=' :: value

/-- A piece of a block stands for a token when it is the text of the token with blanks around. -/
def SpelledBy (t : FlagToken) (piece : Text) : Prop := ',' ∉ piece ∧ Text.trim piece = t.toText

instance (t : FlagToken) (piece : Text) : Decidable (t.SpelledBy piece) :=
  inferInstanceAs (Decidable (',' ∉ piece ∧ Text.trim piece = t.toText))

/-- The code is one of `codes`, and the value is one for a header; blanks around it do not count. -/
def Valid (codes : Text → Prop) : FlagToken → Prop
  | .redirect (some code) => codes code
  | .contentType (some value) => isFieldValue (Utf8.encode (Text.trim value)) = true
  | _ => True

def status? : FlagToken → Option Status
  | .redirect none => some .movedPermanently
  | .redirect (some code) => Status.ofNat? (Text.decimal (Status.digits code))
  | _ => none

def contentType? : FlagToken → Option Text
  | .contentType value =>
    let value := Text.trim (value.getD [])
    some (if value.isEmpty then text "text/plain" else value)
  | _ => none

end FlagToken

/-- The inside of a block is spelled by its tokens in order and the filter for the host. -/
inductive SpellsBlock : List FlagToken → Option Text → Text → Prop where
  | token {t : FlagToken} {inner : Text} (ht : t.SpelledBy inner) : SpellsBlock [t] none inner
  | host {inner filter : Text} (hinner : Text.trimStart inner = 'H' :: '=' :: filter) :
      SpellsBlock [] (some (Text.trim filter)) inner
  | cons {t : FlagToken} {piece rest : Text} {ts : List FlagToken} {host : Option Text}
      (ht : t.SpelledBy piece) (hrest : SpellsBlock ts host rest) :
      SpellsBlock (t :: ts) host (piece ++ ',' :: rest)

structure Directive where
  first : Text
  replacement : Text
  tokens : List FlagToken
  host : Option Text

namespace Directive

inductive Spells : Directive → Text → Prop where
  | plain {first gap replacement : Text} (hfirst : Text.IsField first) (hgap : Text.IsGap gap)
      (hreplacement : Text.IsField replacement)
      (hplain : ∀ inner, replacement ≠ Text.inBrackets inner) :
      Spells ⟨first, replacement, [], none⟩ (first ++ gap ++ replacement)
  | flagged {first gap replacement gap' inner : Text} {tokens : List FlagToken}
      {host : Option Text} (hfirst : Text.IsField first) (hgap : Text.IsGap gap)
      (hreplacement : Text.IsField replacement) (hgap' : Text.IsGap gap')
      (hblock : SpellsBlock tokens host inner) :
      Spells ⟨first, replacement, tokens, host⟩
        (first ++ gap ++ replacement ++ gap' ++ Text.inBrackets inner)

/-- A directive whose block, written without blanks, is the replacement as well. -/
inductive SpellsShared : Directive → Text → Prop where
  | shared {first gap inner : Text} {tokens : List FlagToken} {host : Option Text}
      (hfirst : Text.IsField first) (hgap : Text.IsGap gap)
      (hreplacement : Text.IsField (Text.inBrackets inner))
      (hblock : SpellsBlock tokens host inner) :
      SpellsShared ⟨first, Text.inBrackets inner, tokens, host⟩
        (first ++ gap ++ Text.inBrackets inner)

/-- The source of the pattern: the first field without one leading exclamation mark. -/
def source (d : Directive) : Text := if d.first.head? = some '!' then d.first.tail else d.first

def noCase (d : Directive) : Bool := decide (.noCase ∈ d.tokens)

def contentType? (d : Directive) : Option Text :=
  (d.tokens.filterMap FlagToken.contentType?).getLast?

/-- The strongest action among the tokens; of several redirects the last one counts. -/
def action (d : Directive) : Action :=
  if .gone ∈ d.tokens then .gone
  else if .forbidden ∈ d.tokens then .forbidden
  else if .proxy ∈ d.tokens then .proxy
  else match (d.tokens.filterMap FlagToken.status?).getLast? with
    | some status => .redirect status
    | none => .replace

structure Valid (codes : Text → Prop) (caseless : Bool) (d : Directive) : Prop where
  pattern : (Pattern.parse? caseless d.source).isSome = true
  tokens : ∀ t ∈ d.tokens, t.Valid codes
  host : ∀ filter ∈ d.host, (Pattern.parse? false filter).isSome = true

end Directive

/-- A text that is a directive of the grammar. `NC` has an effect only in a field of its own. -/
def IsDirective (codes : Text → Prop) (t : Text) : Prop :=
  ∃ d : Directive, (d.Spells t ∧ d.Valid codes d.noCase) ∨ (d.SpellsShared t ∧ d.Valid codes false)

end RuleGate
