import RuleGate.Server

/-! # The command line

The program loads its configuration and either reports on it or starts to serve. Arguments are
read from the left, and the first that asks for help or the version, or that is wrong, decides.
-/
namespace RuleGate.Cli

/-- What the arguments ask for. -/
structure Options where
  config : Option Text := none
  check : Bool := false
  deriving DecidableEq

inductive Command where
  | help
  | version
  | run (options : Options)
  | usage
  deriving DecidableEq

/-! ## Arguments -/

/-- An argument that may be the value of the option before it. -/
def isValue (t : Text) : Bool :=
  match t with
  | ['-'] => true
  | '-' :: _ => false
  | t => !t.isEmpty

/-- The value after an option in one argument, of which an equals sign is no part. -/
def attached (t : Text) : Text :=
  match t with
  | '=' :: r => r
  | t => t

/-- What an argument is by itself. -/
inductive Argument where
  | help
  | version
  | check
  | config (value : Text)
  | configNext
  | ending
  | wrong

/-- The argument of letters after a hyphen. -/
def Argument.short : Text → Argument
  | ['c'] => .configNext
  | 'c' :: r => .config (attached r)
  | 'h' :: _ => .help
  | 'V' :: _ => .version
  | _ => .wrong

/-- The argument of a name after two hyphens. -/
def Argument.long (t : Text) : Argument :=
  match Text.cut '=' t with
  | (name, none) =>
    if name.isEmpty then .ending
    else if name = text "help" then .help
    else if name = text "version" then .version
    else if name = text "check" then .check
    else if name = text "config" then .configNext
    else .wrong
  | (name, some value) => if name = text "config" then .config value else .wrong

def Argument.ofText : Text → Argument
  | '-' :: '-' :: r => .long r
  | '-' :: r => .short r
  | _ => .wrong

/-- Note the configuration, which is named once at most and not by an empty text. -/
def Options.withConfig? (o : Options) (value : Text) : Option Options :=
  if o.config.isSome ∨ value.isEmpty then none else some { o with config := some value }

/-- Read arguments after some options. -/
def Command.from (o : Options) : List Text → Command
  | [] => .run o
  | t :: r =>
    match Argument.ofText t with
    | .help => .help
    | .version => .version
    | .check => if o.check then .usage else Command.from { o with check := true } r
    | .config value =>
      match o.withConfig? value with
      | some o => Command.from o r
      | none => .usage
    | .configNext =>
      match r with
      | value :: r =>
        match (if isValue value then o.withConfig? value else none) with
        | some o => Command.from o r
        | none => .usage
      | [] => .usage
    | .ending => if r.isEmpty then .run o else .usage
    | .wrong => .usage

def Command.ofArguments (args : List Text) : Command := Command.from {} args

/-! ## Running -/

/-- What a run comes to: something to print, a fault, or a server. -/
inductive Outcome where
  | help
  | version
  | usage
  | checked (rules : Nat)
  | failed (error : StartError)
  | serve (server : Server)

/-- The configuration that is read if no other is named. -/
def defaultConfig : Text := text "gateway.toml"

/-- The settings and the directory in which paths of rules files start. The default configuration
may be missing. -/
def readSettings (files : Files) (config : Option Text) :
    Except Config.ConfigError (Config.Settings × Text) := do
  let path := config.getD defaultConfig
  if config.isNone && !files.exists? path then return ({}, ['.'])
  let settings ← Config.loadSettings files path
  let base := Path.parent path
  return (settings, if base.isEmpty then ['.'] else base)

/-- Run with options. -/
def Options.run (o : Options) (files : Files) : Outcome :=
  match readSettings files o.config with
  | .error e => .failed (.config e)
  | .ok (settings, base) =>
    if o.check then
      match Config.loadRules files settings base with
      | .ok rules => .checked rules.length
      | .error e => .failed (.config e)
    else
      match Server.prepare files settings base with
      | .ok server => .serve server
      | .error e => .failed e

def run (files : Files) (args : List Text) : Outcome :=
  match Command.ofArguments args with
  | .help => .help
  | .version => .version
  | .usage => .usage
  | .run o => o.run files

/-! ## Texts -/

def helpText : Text := text (String.join [
  "Rule-driven URL rewrite gateway\n\n",
  "Usage: rewrite-gateway [OPTIONS]\n\n",
  "Options:\n",
  "  -c, --config <CONFIG>  Configuration file (defaults to ./gateway.toml when present)\n",
  "      --check            Compile the configuration and rules, report, and exit\n",
  "  -h, --help             Print help\n",
  "  -V, --version          Print version\n"])

def usageText : Text := text (String.join [
  "error: invalid arguments\n\n",
  "Usage: rewrite-gateway [OPTIONS]\n\n",
  "For more information, try '--help'.\n"])

def versionText : Text := text "rewrite-gateway 0.1.0\n"

namespace Outcome

/-- The exit code; a server that is stopped in order has done well. -/
def code : Outcome → Nat
  | .usage => 2
  | .failed _ => 1
  | _ => 0

/-- What goes to standard output. -/
def output : Outcome → Text
  | .help => helpText
  | .version => versionText
  | .checked n => text "configuration ok: " ++ Text.ofNat n ++ text " rules\n"
  | _ => []

/-- What goes to standard error. A message that leaves off has no line end. -/
def errors : Outcome → Text
  | .usage => usageText
  | .failed e => text "error: " ++ e.message ++ (if e.isCut then [] else ['\n'])
  | _ => []

end Outcome

end RuleGate.Cli
