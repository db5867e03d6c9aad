import RuleGate.Config.Reader
import RuleGate.Config.Validation
import RuleGate.FileTree
import RuleGate.Rule

/-! # Loading settings and rules

Rules are given in the settings and in a file with one directive on each line, in which blank lines
and comments do not count. All are compiled as one set, those of the settings first, and a bad one
is reported with its place.
-/
namespace RuleGate.Config

inductive ConfigError where
  | io (path : Text) (fault : FileFault)
  | parse (path : Text)
  | validation (problems : List Problem)
  | rule (origin : Text) (error : RuleError)
  deriving DecidableEq

/-- The wording of an error, up to the reason where another language has its own. -/
def ConfigError.message : ConfigError → Text
  | .io path fault => text "failed to read " ++ path ++ text ": " ++ fault.message
  | .parse path => text "failed to parse " ++ path ++ text ": "
  | .validation problems =>
    text "validation failed: " ++ Text.joinWith (text ", ") (problems.map Problem.message)
  | .rule origin error => text "invalid rule at " ++ origin ++ text ": " ++ error.message

/-- Load and validate the settings in a file. -/
def loadSettings (files : Files) (path : Text) : Except ConfigError Settings := do
  let content ← (files.readText path).mapError (.io path)
  let some settings := parse? content | throw (.parse path)
  match settings.problems with
  | [] => return settings
  | problems => throw (.validation problems)

/-- A directive and where it is written. -/
structure Located where
  origin : Text
  directive : Text
  deriving DecidableEq

/-- The directives of a list with their places in it. -/
def inlineDirectives (rules : List Text) : List Located :=
  rules.mapIdx fun i d => ⟨text "rules[" ++ Text.ofNat i ++ text "]", d⟩

/-- The trimmed lines of a rules file that are neither blank nor comments, with the numbers of the
lines counted from one. -/
def ruleLines (content : Text) : List (Nat × Text) :=
  ((Text.lines content).mapIdx fun i line => (i + 1, Text.trim line)).filter fun l =>
    match l.2 with
    | [] | '#' :: _ => false
    | _ => true

def fileDirectives (path content : Text) : List Located :=
  (ruleLines content).map fun l => ⟨path ++ ':' :: Text.ofNat l.1, l.2⟩

/-- Compile located directives; an error is given the place of the directive that it counts. -/
def compileLocated (directives : List Located) : Except ConfigError RuleSet :=
  (RuleSet.compile (directives.map Located.directive)).mapError fun e =>
    .rule ((directives[e.line - 1]?.map Located.origin).getD []) e

/-- Load the rules of settings. The path of a rules file starts in the directory `base`. -/
def loadRules (files : Files) (settings : Settings) (base : Text) : Except ConfigError RuleSet := do
  let written := inlineDirectives settings.rules
  match settings.rulesFile with
  | none => compileLocated written
  | some file =>
    let path := Path.join base file
    let content ← (files.readText path).mapError (.io path)
    compileLocated (written ++ fileDirectives path content)

end RuleGate.Config
