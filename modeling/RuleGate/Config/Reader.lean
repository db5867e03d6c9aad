import RuleGate.Config.Settings
import RuleGate.Toml.Parser

/-! # Settings from TOML

A group of settings is written as a table, or as a list of its values in order. What is not written
keeps its default, and keys that are no settings do not count.
-/
namespace RuleGate.Config

open Toml

/-- The values written for a group of settings: by key or in order. A moment in time is a group
with no setting in it. -/
inductive Group where
  | keyed (entries : Entries)
  | ordered (values : List Node)

def group? : Node → Option Group
  | .table _ es => some (.keyed es)
  | .list l | .tables l => some (.ordered l)
  | .moment => some (.keyed [])
  | _ => none

/-- The value for the setting with a key and a place in the order. -/
def Group.get? (g : Group) (place : Nat) (key : String) : Option Node :=
  match g with
  | .keyed es => Entries.get? es (text key)
  | .ordered l => l[place]?

/-- Read a setting, or keep its default when nothing is written. -/
def Group.read (g : Group) (place : Nat) (key : String) (initial : α) (f : Node → Option α) :
    Option α :=
  match g.get? place key with
  | none => some initial
  | some n => f n

def string? : Node → Option Text
  | .string t => some t
  | _ => none

def strings? : Node → Option (List Text)
  | .list l | .tables l => l.mapM string?
  | _ => none

def natural? : Node → Option Nat
  | .integer n => if 0 ≤ n then some n.toNat else none
  | _ => none

def isEmptyGroup : Node → Bool
  | .list [] | .tables [] | .table _ [] => true
  | _ => false

def logFormatNamed? (t : Text) : Option LogFormat :=
  if t == text "pretty" then some .pretty
  else if t == text "json" then some .json
  else none

/-- A format is written as its name, or as the only key of a table, with nothing in it. -/
def logFormat? : Node → Option LogFormat
  | .string t => logFormatNamed? t
  | .table _ [(t, n)] => if isEmptyGroup n then logFormatNamed? t else none
  | _ => none

/-- Both files have to be named. -/
def tlsFiles? (n : Node) : Option TlsFiles := do
  let g ← group? n
  return ⟨← string? (← g.get? 0 "cert_path"), ← string? (← g.get? 1 "key_path")⟩

def listener? (n : Node) : Option Listener := do
  let g ← group? n
  return {
    bindAddress := ← g.read 0 "bind_address" ({} : Listener).bindAddress string?
    tls := ← g.read 1 "tls" none fun n => (tlsFiles? n).map some }

def timeouts? (n : Node) : Option Timeouts := do
  let g ← group? n
  return {
    connect := ← g.read 0 "connect_secs" ({} : Timeouts).connect natural?
    request := ← g.read 1 "request_secs" ({} : Timeouts).request natural? }

/-- A group with a single optional text. -/
def optionalText? (key : String) (n : Node) : Option (Option Text) := do
  (← group? n).read 0 key none fun n => (string? n).map some

def observability? (n : Node) : Option Observability := do
  let g ← group? n
  return {
    logLevel := ← g.read 0 "log_level" ({} : Observability).logLevel string?
    logFormat := ← g.read 1 "log_format" ({} : Observability).logFormat logFormat? }

/-- The settings of a document. -/
def settings? (n : Node) : Option Settings := do
  let g ← group? n
  return {
    rules := ← g.read 0 "rules" [] strings?
    rulesFile := ← g.read 1 "rules_file" none fun n => (string? n).map some
    listener := ← g.read 2 "listener" {} listener?
    timeouts := ← g.read 3 "timeouts" {} timeouts?
    viaIdentity := ← g.read 4 "proxy" none (optionalText? "via_identity")
    staticRoot := ← g.read 5 "static_files" none (optionalText? "root")
    observability := ← g.read 6 "observability" {} observability? }

/-- The settings that a text in TOML describes. -/
def parse? (t : Text) : Option Settings := (Toml.parse? t).bind settings?

end RuleGate.Config
