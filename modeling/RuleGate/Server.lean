import RuleGate.Config.Loader
import RuleGate.StaticFiles
import RuleGate.Tls

/-! # Servers

A server is a gateway with its settings. It gets ready in a fixed order: rules first, then the
certificate and key if its listener encrypts.
-/
namespace RuleGate

inductive StartError where
  | config (error : Config.ConfigError)
  | tls (fault : Tls.Fault)

namespace StartError

/-- Whether the message leaves off before a reason in the wording of another language. -/
def isCut : StartError → Bool
  | .config (.parse _) => true
  | .config (.rule _ e) => e.hasReason
  | _ => false

def message : StartError → Text
  | .config e => e.message
  | .tls f => f.message

end StartError

structure Server where
  settings : Config.Settings
  rules : RuleSet
  credentials : Option Tls.Credentials

namespace Server

/-- Get a server ready whose rules file is found from the directory `base`. -/
def prepare (files : Files) (settings : Config.Settings) (base : Text) :
    Except StartError Server := do
  let rules ← (Config.loadRules files settings base).mapError .config
  match settings.listener.tls with
  | none => return ⟨settings, rules, none⟩
  | some place => return ⟨settings, rules, some (← (Tls.load files place).mapError .tls)⟩

/-- The gateway of a server on a host, whose name counts when the settings name no hop. -/
def gateway (s : Server) (host : Option Text) : Gateway :=
  ⟨s.rules, s.settings.viaIdentity.getD (Via.ofHostname host), s.credentials.isSome⟩

/-- The stage behind the gateway: files if there is a root. -/
def stage (s : Server) (files : Files) : Stage :=
  match s.settings.staticRoot with
  | some root => StaticFiles.stage files root
  | none => notFoundStage

end Server

end RuleGate
