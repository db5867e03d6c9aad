import RuleGate.Text.Basic

/-! # The filter of log records -/
namespace RuleGate

/-- The records of the gateway and of its HTTP layer from a level on. -/
def logFilter (level : Text) : Text :=
  let level := Text.lower level
  text "rewrite_gateway=" ++ level ++ text ",tower_http=" ++ level

end RuleGate
