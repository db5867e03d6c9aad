import RuleGate.Scheme
import RuleGate.Text.Percent
import RuleGate.Url.Host

/-! # URLs of backends

A URL is read leniently: blanks at its ends, tabs and line breaks do not count, slashes may lean
backwards, any number of them may stand before the authority, and dots in the path are resolved.
What comes out is normal: the host in ASCII, the default number after the colon left out, and
everything but plain characters percent-encoded.
-/
namespace RuleGate

/-- A URL with the scheme `http` or `https`. The service is the number after the colon, if it is
written and not the default. -/
structure Url where
  scheme : Scheme
  credentials : Text
  host : Host
  service : Option Nat
  path : List Text
  query : Option Text
  fragment : Option Text
  deriving DecidableEq

namespace Url

/-! ## Encoding -/

def isControl (c : Char) : Bool := c.toNat < 0x20 || c.toNat == 0x7F

/-- The characters that are encoded in a path. -/
def pathSet (c : Char) : Bool := isControl c || " \"#<>?\x60\x7b\x7d".contains c

/-- The characters that are encoded in a query. -/
def querySet (c : Char) : Bool := isControl c || " \"#<>'".contains c

/-- The characters that are encoded in a fragment. -/
def fragmentSet (c : Char) : Bool := isControl c || " \"<>\x60".contains c

/-- The characters that are encoded in a name or password. -/
def credentialSet (c : Char) : Bool := pathSet c || "/:;=@[\\]^|".contains c

/-! ## Parts -/

def isSlash (c : Char) : Bool := c == '/' || c == '\\'

/-- The characters after which an authority has ended. -/
def isAuthorityEnd (c : Char) : Bool := isSlash c || c == '?' || c == '#'

def isOpaqueEnd (c : Char) : Bool := c == '/' || c == '?' || c == '#'

def isEdge (c : Char) : Bool := c.toNat ≤ 0x20

def isBreak (c : Char) : Bool := c == '\t' || c == '\n' || c == '\r'

/-- A text without what does not count. -/
def clean (t : Text) : Text :=
  ((t.dropWhile isEdge).reverse.dropWhile isEdge).reverse.filter (!isBreak ·)

def isSchemeChar (c : Char) : Bool :=
  Text.isLetter c || Text.isDigit c || c == '+' || c == '-' || c == '.'

/-- The scheme in lower case and what follows its colon. -/
def cutScheme? (t : Text) : Option (Text × Text) :=
  if !(t.head?.any Text.isLetter) then none
  else
    match t.dropWhile isSchemeChar with
    | ':' :: r => some (Text.lower (t.takeWhile isSchemeChar), r)
    | _ => none

/-- The text before the last `@`, if there is one, and the text after it. -/
def cutCredentials (t : Text) : Option Text × Text :=
  if t.contains '@' then
    (some ((t.reverse.dropWhile (· != '@')).drop 1).reverse,
      (t.reverse.takeWhile (· != '@')).reverse)
  else (none, t)

/-- Name and password as they are written; a password that is empty has no colon. -/
def credentialText (t : Text) : Text :=
  let (name, password) := Text.cut ':' t
  let password := password.getD []
  let name := Percent.encode credentialSet name
  if password.isEmpty then name else name ++ ':' :: Percent.encode credentialSet password

/-- The host, up to a colon that is not in brackets, and the text after that colon. -/
def cutHost (inBrackets : Bool) : Text → Text × Option Text
  | [] => ([], none)
  | c :: r =>
    if c = ':' ∧ !inBrackets then ([], some r)
    else
      let inside := if c = '[' then true else if c = ']' then false else inBrackets
      let (host, rest) := cutHost inside r
      (c :: host, rest)

/-- The number after the colon; there may be no digits. -/
def serviceNumber (t : Text) : Except UrlFault (Option Nat) :=
  let digits := t.takeWhile Text.isDigit
  match t.dropWhile Text.isDigit with
  | [] | '\\' :: _ =>
    if digits.isEmpty then .ok none
    else if 65535 < Text.decimal digits then .error .serviceNumber
    else .ok (some (Text.decimal digits))
  | _ => .error .serviceNumber

/-- What an authority holds. -/
structure Authority where
  credentials : Text
  host : Host
  service : Option Nat

/-- Read the authority of a scheme that has domain names. -/
def readAuthority (t : Text) : Except UrlFault Authority := do
  let (before, place) := cutCredentials t
  let (host, after) := cutHost false place
  if host.isEmpty then throw .emptyHost
  return ⟨credentialText (before.getD []), ← Host.parse host, ← serviceNumber (after.getD [])⟩

/-- Check the authority of another scheme. Its host may be empty if nothing else is there. -/
def checkOpaque (t : Text) (isLast : Bool) : Except UrlFault Unit := do
  let (before, place) := cutCredentials t
  if before = some [] ∧ place.isEmpty ∧ !isLast then throw .emptyHost
  let (host, after) := cutHost false place
  Host.checkOpaque host
  if host.isEmpty ∧ after.isSome then throw .emptyHost
  let _ ← serviceNumber (after.getD [])
  if host.isEmpty ∧ !(credentialText (before.getD [])).isEmpty then throw .emptyHost

/-- Two letters `2e` after a percent sign stand for a dot. -/
def undot : Text → Text
  | '%' :: '2' :: e :: r =>
    if e = 'e' ∨ e = 'E' then '.' :: undot r else '%' :: '2' :: e :: undot r
  | c :: r => c :: undot r
  | [] => []

/-- Resolve the segments of a path: a dot is nothing and two dots undo a segment, which leaves an
empty one if it is at the end. `done` is reversed. -/
def resolve (done : List Text) : List Text → List Text
  | [] => done.reverse
  | s :: r =>
    let final (done : List Text) : List Text := if r.isEmpty then [] :: done else done
    if undot s = ['.'] then resolve (final done) r
    else if undot s = ['.', '.'] then resolve (final (done.drop 1)) r
    else resolve (Percent.encode pathSet s :: done) r

/-- Split at slashes that lean either way. -/
def segments (t : Text) : List Text :=
  Text.splitAll '/' (t.map fun c => if isSlash c then '/' else c)

/-- The segments of a path after an authority; there is always at least one. -/
def readPath (t : Text) : List Text :=
  match t with
  | [] => [[]]
  | c :: r => resolve [] (segments (if isSlash c then r else c :: r))

/-- Path, query and fragment. -/
def readTail (t : Text) : List Text × Option Text × Option Text :=
  let (t, f) := Text.cut '#' t
  let (p, q) := Text.cut '?' t
  (readPath p, q.map (Percent.encode querySet), f.map (Percent.encode fragmentSet))

/-! ## Schemes -/

/-- A URL of a backend, or the scheme of a URL of another kind. -/
inductive Parsed where
  | web (url : Url)
  | foreign (scheme : Text)

/-- The number after the colon that goes without saying. -/
def defaultService : Scheme → Nat
  | .http => 80
  | .https => 443

/-- Schemes with domain names, other than those of backends. -/
def isNamed (scheme : Text) : Bool :=
  scheme == text "ws" || scheme == text "wss" || scheme == text "ftp"

/-- The authority of a scheme with domain names and the text after it. -/
def cutAuthority (t : Text) : Text × Text :=
  let t := t.dropWhile isSlash
  (t.takeWhile (!isAuthorityEnd ·), t.dropWhile (!isAuthorityEnd ·))

/-- A URL of a backend after the colon of its scheme. -/
def ofScheme (scheme : Scheme) (t : Text) : Except UrlFault Url := do
  let (place, rest) := cutAuthority t
  let a ← readAuthority place
  let (path, query, fragment) := readTail rest
  let service := if a.service = some (defaultService scheme) then none else a.service
  return ⟨scheme, a.credentials, a.host, service, path, query, fragment⟩

/-- A letter with a colon or bar names a drive. -/
def isDrive : Text → Bool
  | [c, d] => Text.isLetter c && (d == ':' || d == '|')
  | _ => false

/-- Check a URL of a file after the colon of its scheme. -/
def checkFile (t : Text) : Except UrlFault Unit :=
  match t with
  | a :: b :: r =>
    let host := r.takeWhile (!isAuthorityEnd ·)
    if !(isSlash a && isSlash b) || host.isEmpty || isDrive host then .ok ()
    else (Host.parse host).map fun _ => ()
  | _ => .ok ()

/-- Check a URL of any other scheme after the colon. -/
def checkOther (t : Text) : Except UrlFault Unit :=
  match t with
  | '/' :: '/' :: r =>
    checkOpaque (r.takeWhile (!isOpaqueEnd ·)) (r.dropWhile (!isOpaqueEnd ·)).isEmpty
  | _ => .ok ()

/-- Read an absolute URL. -/
def parse (t : Text) : Except UrlFault Parsed := do
  match cutScheme? (clean t) with
  | none => throw .relative
  | some (scheme, rest) =>
    if scheme = Scheme.http.name then return .web (← ofScheme .http rest)
    else if scheme = Scheme.https.name then return .web (← ofScheme .https rest)
    else
      if isNamed scheme then let _ ← readAuthority (cutAuthority rest).1
      else if scheme = text "file" then checkFile rest
      else checkOther rest
      return .foreign scheme

/-! ## Text -/

def authorityText (u : Url) : Text :=
  (if u.credentials.isEmpty then [] else u.credentials ++ ['@']) ++ u.host.toText ++
    (u.service.map fun n => ':' :: Text.ofNat n).getD []

def toText (u : Url) : Text :=
  u.scheme.name ++ text "://" ++ u.authorityText ++ u.path.flatMap ('/' :: ·) ++
    (u.query.map ('?' :: ·)).getD [] ++ (u.fragment.map ('#' :: ·)).getD []

def withoutFragment (u : Url) : Url := { u with fragment := none }

end Url

end RuleGate
