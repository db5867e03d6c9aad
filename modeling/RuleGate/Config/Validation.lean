import RuleGate.Config.Settings
import RuleGate.SocketAddress

/-! # Validation of settings

All problems are reported, in a fixed order.
-/
namespace RuleGate.Config

inductive Problem where
  | bindAddress (address : Text)
  | emptyTlsPath (setting : Text)
  | zeroTimeout (setting : Text)
  | emptyViaIdentity
  | logLevel (level : Text)
  deriving DecidableEq

def Problem.message : Problem → Text
  | .bindAddress a =>
    text "listener.bind_address \x60" ++ a ++ text "\x60 is not a socket address"
  | .emptyTlsPath s => text "listener.tls." ++ s ++ text " must not be empty"
  | .zeroTimeout s => text "timeouts." ++ s ++ text " must be greater than zero"
  | .emptyViaIdentity => text "proxy.via_identity must not be empty"
  | .logLevel l => text "observability.log_level \x60" ++ l ++ text "\x60 is not a valid level"

def logLevels : List Text := ["trace", "debug", "info", "warn", "error"].map text

def reportIf (bad : Bool) (p : Problem) : List Problem := if bad then [p] else []

/-- The problems of a group of settings. -/
def TlsFiles.problems (f : TlsFiles) : List Problem :=
  reportIf f.certificate.isEmpty (.emptyTlsPath (text "cert_path")) ++
    reportIf f.key.isEmpty (.emptyTlsPath (text "key_path"))

def Settings.problems (s : Settings) : List Problem :=
  reportIf (!SocketAddress.isValid s.listener.bindAddress) (.bindAddress s.listener.bindAddress) ++
    (s.listener.tls.map TlsFiles.problems).getD [] ++
    reportIf (s.timeouts.connect == 0) (.zeroTimeout (text "connect_secs")) ++
    reportIf (s.timeouts.request == 0) (.zeroTimeout (text "request_secs")) ++
    reportIf (s.viaIdentity.any fun v => (Text.trim v).isEmpty) .emptyViaIdentity ++
    reportIf (!logLevels.contains (Text.lower s.observability.logLevel))
      (.logLevel s.observability.logLevel)

end RuleGate.Config
