import RuleGate.Pattern.Template

/-! # Replacement texts

In a replacement, `$` and the longest run of digits after it stand for the text of a group, `$&`
for the whole match and `$$` for one dollar sign. Every other character stands for itself, among
them braces and any other dollar sign. As a template, a replacement has each number in braces, so
that a letter after the digits does not become part of the name, and each dollar sign twice that
stands for itself.
-/
namespace RuleGate.Replacement

mutual

/-- The text of the template of a replacement. -/
def toTemplate : Text → Text
  | [] => []
  | '$' :: r => afterDollar r
  | c :: r => c :: toTemplate r

/-- The same for a dollar sign and the text that follows it. -/
def afterDollar : Text → Text
  | [] => ['$', '$']
  | '$' :: r => '$' :: '$' :: toTemplate r
  | '&' :: r => '$' :: '\x7b' :: '0' :: '\x7d' :: toTemplate r
  | c :: r =>
    if Text.isDigit c then '$' :: '\x7b' :: c :: afterDigit r
    else '$' :: '$' :: c :: toTemplate r

/-- The same for the text that follows a digit of a number. -/
def afterDigit : Text → Text
  | [] => ['\x7d']
  | c :: r =>
    if Text.isDigit c then c :: afterDigit r
    else if c = '$' then '\x7d' :: afterDollar r
    else '\x7d' :: c :: toTemplate r

end

end RuleGate.Replacement
