import RuleGate.Config.Settings
import RuleGate.FileTree
import RuleGate.Tls.Certificate
import RuleGate.Tls.Pem
import RuleGate.Tls.PrivateKey

/-! # Certificate and key of the listener

A listener that encrypts needs a chain of certificates and the private key of the first. Both come
from PEM files, and the file of the key holds one key.
-/
namespace RuleGate.Tls

/-- The first certificate of a chain, the whole chain as written, and its key. -/
structure Credentials where
  chain : List Bytes
  certificate : Certificate
  key : PrivateKey

inductive Fault where
  | noCertificateFile (path : Text)
  | noKeyFile (path : Text)
  | unreadable (fault : FileFault)
  | badSection (fault : Pem.Fault)
  | keyCount
  | badKey
  | noCertificate
  | badCertificate
  | keyMismatch
  deriving DecidableEq

def Fault.message : Fault → Text
  | .noCertificateFile path => text "Certificate file not found: " ++ path
  | .noKeyFile path => text "Private key file not found: " ++ path
  | .unreadable fault => fault.message
  | .badSection (.noEnd label) =>
    text "section end \"" ++ Utf8.decodeLossy (Pem.endLine label) ++ text "\" missing"
  | .badSection .badBegin => text "illegal section start"
  | .badSection .badBase64 => text "base64 decode error"
  | .keyCount => text "private key format not supported"
  | .badKey => text "failed to parse private key as RSA, ECDSA, or EdDSA"
  | .noCertificate => text "peer sent no certificates"
  | .badCertificate => text "invalid peer certificate: BadEncoding"
  | .keyMismatch => text "keys may not be consistent: KeyMismatch"

/-- The certificates of a file, every section of which has to be sound. -/
def chain (file : Bytes) : Except Fault (List Bytes) := do
  let sections ← ((Pem.sections file).mapM id).mapError .badSection
  return (sections.filter fun s => s.label == Pem.ascii "CERTIFICATE").map Pem.Section.content

def keyLabels : List Bytes :=
  ["PRIVATE KEY", "EC PRIVATE KEY", "RSA PRIVATE KEY"].map Pem.ascii

/-- The keys of a file; a section that is not sound is passed over. -/
def keys (file : Bytes) : List Bytes :=
  ((Pem.sections file).filterMap Except.toOption).filterMap fun s =>
    if keyLabels.contains s.label then some s.content else none

/-- The credentials of two files that have been read. -/
def ofFiles (certificates key : Bytes) : Except Fault Credentials := do
  let chain ← chain certificates
  match keys key with
  | [der] =>
    let some key := PrivateKey.ofDer? der | throw .badKey
    let first :: _ := chain | throw .noCertificate
    let some certificate := Certificate.ofDer? first | throw .badCertificate
    if certificate.publicKey = key.publicKey then return ⟨chain, certificate, key⟩
    else throw .keyMismatch
  | _ => throw .keyCount

/-- Load credentials. Whether both files are there is looked at before either is read. -/
def load (files : Files) (place : Config.TlsFiles) : Except Fault Credentials := do
  if !files.exists? place.certificate then throw (.noCertificateFile place.certificate)
  if !files.exists? place.key then throw (.noKeyFile place.key)
  let certificates ← (files.read place.certificate).mapError .unreadable
  let key ← (files.read place.key).mapError .unreadable
  ofFiles certificates key

end RuleGate.Tls
