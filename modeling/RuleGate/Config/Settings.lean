import RuleGate.Text.Basic

/-! # Settings

Every setting has a default, so an empty configuration is complete.
-/
namespace RuleGate.Config

/-- The files of a certificate chain and its private key. -/
structure TlsFiles where
  certificate : Text
  key : Text
  deriving DecidableEq

structure Listener where
  bindAddress : Text := text "0.0.0.0:8080"
  tls : Option TlsFiles := none
  deriving DecidableEq

/-- Times in seconds. -/
structure Timeouts where
  connect : Nat := 5
  request : Nat := 30
  deriving DecidableEq

inductive LogFormat where
  | pretty
  | json
  deriving DecidableEq

structure Observability where
  logLevel : Text := text "info"
  logFormat : LogFormat := .pretty
  deriving DecidableEq

structure Settings where
  rules : List Text := []
  rulesFile : Option Text := none
  listener : Listener := {}
  timeouts : Timeouts := {}
  viaIdentity : Option Text := none
  staticRoot : Option Text := none
  observability : Observability := {}
  deriving DecidableEq

end RuleGate.Config
