import RuleGate.Query
import RuleGate.Rule
import RuleGate.Scheme

/-! # Evaluation of rules

The rules are tried in order on the URL of a request, which each rule that fires may change for
the rules after it. The walk stops at the first rule that fires with an action of its own or with
the flag `L`.
-/
namespace RuleGate

/-- What rules see of a request: path and query, host and scheme. -/
structure Context where
  url : Text
  host : Text
  scheme : Scheme

/-- How a request leaves the rules. -/
inductive Outcome where
  | continue
  | gone
  | forbidden
  | redirect (status : Status) (location : Text)
  | proxy (rule : Rule)

def Outcome.isTerminal : Outcome → Bool
  | .continue => false
  | _ => true

/-- What becomes of one rule at a URL. -/
inductive Reaction where
  | hostRejected
  | idle
  | invertedFired
  | fired
  deriving DecidableEq

namespace Rule

def reaction (r : Rule) (host url : Text) : Reaction :=
  if !r.acceptsHost host then .hostRejected
  else
    match r.inverted, r.isMatch url with
    | true, false => .invertedFired
    | false, true => .fired
    | _, _ => .idle

/-- Where the walk goes from a rule. -/
inductive Step where
  | next (url : Text)
  | stop (outcome : Outcome) (url : Text)

/-- Go on with a URL unless the rule is the last. -/
def pass (r : Rule) (url : Text) : Step := if r.last then .stop .continue url else .next url

/-- The place that a redirecting rule names: its substitution on the host of the request. -/
def location (r : Rule) (ctx : Context) (url : Text) : Text :=
  ctx.scheme.name ++ text "://" ++ ctx.host ++ r.substitute url

/-- Try a rule on a URL. An inverted rule puts its replacement, as written, in place of the URL
whatever its action is. -/
def step (r : Rule) (ctx : Context) (url : Text) : Step :=
  match r.reaction ctx.host url with
  | .hostRejected | .idle => .next url
  | .invertedFired => r.pass r.replacement
  | .fired =>
    match r.action with
    | .gone => .stop .gone url
    | .forbidden => .stop .forbidden url
    | .proxy => .stop (.proxy r) url
    | .redirect status => .stop (.redirect status (r.location ctx url)) url
    | .replace => r.pass (r.substitute url)

/-- The content type after a rule: that of the rule if it fires and names one. -/
def contentTypeAfter (r : Rule) (ctx : Context) (url : Text) (before : Option Bytes) :
    Option Bytes :=
  if r.reaction ctx.host url = .fired then r.contentType.or before else before

end Rule

/-- The result of the walk: the outcome, the final URL and the content type of the last rule that
fired and names one. -/
structure Evaluation where
  outcome : Outcome
  url : Text
  contentType : Option Bytes

namespace Evaluation

/-- The query mapping of the final URL. -/
def query (e : Evaluation) : Option Query := Query.ofUrl? e.url

/-- Whether the next stage runs. -/
def shouldContinue (e : Evaluation) : Bool := !e.outcome.isTerminal

end Evaluation

/-- Walk rules from a URL and a content type. -/
def RuleSet.walk (ctx : Context) :
    RuleSet → (url : Text) → (contentType : Option Bytes) → Evaluation
  | [], url, contentType => ⟨.continue, url, contentType⟩
  | r :: rules, url, contentType =>
    let contentType := r.contentTypeAfter ctx url contentType
    match r.step ctx url with
    | .next url => RuleSet.walk ctx rules url contentType
    | .stop outcome url => ⟨outcome, url, contentType⟩

/-- Evaluate rules on a request. -/
def RuleSet.evaluate (rules : RuleSet) (ctx : Context) : Evaluation := rules.walk ctx ctx.url none

/-- What the rules from number `index` on do in turn, those that do nothing left out. -/
def RuleSet.traceFrom (ctx : Context) :
    (index : Nat) → RuleSet → (url : Text) → List (Nat × Reaction)
  | _, [], _ => []
  | index, r :: rules, url =>
    let here :=
      match r.reaction ctx.host url with
      | .idle => []
      | reaction => [(index, reaction)]
    match r.step ctx url with
    | .next url => here ++ RuleSet.traceFrom ctx (index + 1) rules url
    | .stop _ _ => here

def RuleSet.trace (rules : RuleSet) (ctx : Context) : List (Nat × Reaction) :=
  RuleSet.traceFrom ctx 0 rules ctx.url

end RuleGate
