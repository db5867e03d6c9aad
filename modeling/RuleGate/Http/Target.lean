import RuleGate.Text.Utf8

/-! # Request targets

A target is a path with a query, or has a scheme and an authority before it, or is an authority
alone. Which characters may stand in each part is checked when a target is read; a fragment is cut
off.
-/
namespace RuleGate

/-- Why a text is no target. -/
inductive TargetFault where
  | tooLong
  | empty
  | invalidCharacter
  | invalidAuthority
  | invalidFormat
  | schemeTooLong
  deriving DecidableEq, Repr

def TargetFault.message : TargetFault → Text
  | .tooLong => text "uri too long"
  | .empty => text "empty string"
  | .invalidCharacter => text "invalid uri character"
  | .invalidAuthority => text "invalid authority"
  | .invalidFormat => text "invalid format"
  | .schemeTooLong => text "scheme too long"

/-- A path and what follows it from a question mark on; both may be missing after an authority. -/
structure PathQuery where
  text : Text
  deriving DecidableEq

namespace PathQuery

/-- Characters of a path: neither blanks nor controls, of which DEL is one, and not `#`, `<`, `>`,
`?` or a grave accent. All characters beyond ASCII may stand there. -/
def isPathChar (c : Char) : Bool :=
  0x80 ≤ c.toNat ||
    (0x21 ≤ c.toNat && c.toNat ≤ 0x7E && c != '#' && c != '<' && c != '>' && c != '?' &&
      c != '\x60')

/-- Characters of a query: neither blanks nor controls, and not a double quote, `#`, `<` or `>`. -/
def isQueryChar (c : Char) : Bool :=
  0x80 ≤ c.toNat ||
    (0x21 ≤ c.toNat && c.toNat ≤ 0x7E && c != '"' && c != '#' && c != '<' && c != '>')

/-- A query up to its fragment. -/
def scanQuery : Text → Option Text
  | [] | '#' :: _ => some []
  | c :: r => if isQueryChar c then (scanQuery r).map (c :: ·) else none

/-- A path and a query up to the fragment. -/
def scan : Text → Option Text
  | [] | '#' :: _ => some []
  | '?' :: r => (scanQuery r).map ('?' :: ·)
  | c :: r => if isPathChar c then (scan r).map (c :: ·) else none

/-- How many bytes a target has at most: where its query begins is a number of 16 bits, the greatest
of which stands for none. -/
def maxBytes : Nat := 65534

def ofText (t : Text) : Except TargetFault PathQuery :=
  if maxBytes < (Utf8.encode t).length then .error .tooLong
  else
    match scan t with
    | some t => .ok ⟨t⟩
    | none => .error .invalidCharacter

/-- The text; a missing path without a query is a slash. -/
def toText (p : PathQuery) : Text := if p.text.isEmpty then ['/'] else p.text

/-- The path, a slash if it is missing. -/
def path (p : PathQuery) : Text :=
  let path := (Text.cut '?' p.text).1
  if path.isEmpty then ['/'] else path

def query? (p : PathQuery) : Option Text := (Text.cut '?' p.text).2

end PathQuery

namespace Authority

/-- Characters that may stand in an authority. -/
def isAuthorityChar (c : Char) : Bool :=
  Text.isLetter c || Text.isDigit c || "!$&'()*+,-.:;=@[]_~".contains c

/-- What has been read of an authority. Colons and percent signs count from the last `@` or closing
bracket on. -/
structure Scan where
  colons : Nat := 0
  opened : Bool := false
  closed : Bool := false
  percent : Bool := false
  afterAt : Bool := false

/-- The number of colons in an address in brackets and before its end. -/
def maxColons : Nat := 8

def Scan.next (s : Scan) (c : Char) : Except TargetFault Scan :=
  let s := { s with afterAt := false }
  match c with
  | ':' =>
    if maxColons ≤ s.colons then .error .invalidAuthority
    else .ok { s with colons := s.colons + 1 }
  | '[' => if s.percent || s.opened then .error .invalidAuthority else .ok { s with opened := true }
  | ']' =>
    if !s.opened || s.closed then .error .invalidAuthority
    else .ok { s with closed := true, colons := 0, percent := false }
  | '@' => .ok { s with colons := 0, percent := false, afterAt := true }
  | '%' => .ok { s with percent := true }
  | c => if isAuthorityChar c then .ok s else .error .invalidCharacter

/-- Check a text that is an authority as a whole. -/
def check (t : Text) : Except TargetFault Unit := do
  let s ← t.foldlM Scan.next {}
  if s.opened != s.closed || 1 < s.colons || s.afterAt || s.percent then .error .invalidAuthority
  else .ok ()

/-- Characters after which an authority has ended. -/
def isEnd (c : Char) : Bool := c == '/' || c == '?' || c == '#'

end Authority

inductive Target where
  | relative (pathQuery : PathQuery)
  | absolute (scheme authority : Text) (pathQuery : PathQuery)
  | authority (authority : Text)
  deriving DecidableEq

namespace Target

def isSchemeChar (c : Char) : Bool :=
  Text.isLetter c || Text.isDigit c || c == '+' || c == '-' || c == '.'

/-- The scheme before `://` and the rest. `http` and `https` go without regard to case. -/
def cutScheme (t : Text) : Except TargetFault (Option Text × Text) :=
  let name := t.takeWhile isSchemeChar
  match t.dropWhile isSchemeChar with
  | ':' :: '/' :: '/' :: r =>
    let low := Text.lower name
    if low == text "http" || low == text "https" then .ok (some low, r)
    else if 64 < name.length then .error .schemeTooLong
    else .ok (some name, r)
  | _ => .ok (none, t)

/-- Read a target. -/
def parse (t : Text) : Except TargetFault Target := do
  if PathQuery.maxBytes < (Utf8.encode t).length then throw .tooLong
  match t with
  | [] => throw .empty
  | ['*'] => return .relative ⟨t⟩
  | '/' :: _ => return .relative (← PathQuery.ofText t)
  | t =>
    let (scheme, r) ← cutScheme t
    let host := r.takeWhile (!Authority.isEnd ·)
    let rest := r.dropWhile (!Authority.isEnd ·)
    Authority.check host
    match scheme with
    | none => if rest.isEmpty then return .authority host else throw .invalidFormat
    | some scheme =>
      if host.isEmpty then throw .invalidFormat
      return .absolute scheme host (← PathQuery.ofText rest)

def pathQuery? : Target → Option PathQuery
  | .relative p | .absolute _ _ p => some p
  | .authority _ => none

def authority? : Target → Option Text
  | .absolute _ a _ | .authority a => some a
  | .relative _ => none

/-- The path; an authority alone has none. -/
def path (t : Target) : Text := (t.pathQuery?.map PathQuery.path).getD []

def query? (t : Target) : Option Text := t.pathQuery?.bind PathQuery.query?

/-- The text of a target, in which the path is never missing before a query. -/
def toText (t : Target) : Text :=
  let tail := t.path ++ (t.query?.map ('?' :: ·)).getD []
  match t with
  | .relative _ => tail
  | .absolute scheme host _ => scheme ++ text "://" ++ host ++ tail
  | .authority a => a

/-- The URL that rules see: path and query as written. -/
def url (t : Target) : Text := (t.pathQuery?.map PathQuery.toText).getD ['/']

/-- The target with another path and query; an authority alone takes none. -/
def withPathQuery? (t : Target) (p : PathQuery) : Option Target :=
  match t with
  | .relative _ => some (.relative p)
  | .absolute scheme host _ => some (.absolute scheme host p)
  | .authority _ => none

/-- A URL with a slash in front. -/
def rooted : Text → Text
  | '/' :: r => '/' :: r
  | url => '/' :: url

/-- Put a URL in place of path and query, with a slash in front if it has none. A URL that is the
present one changes nothing. -/
def withUrl? (t : Target) (url : Text) : Option Target :=
  if t.pathQuery?.map PathQuery.toText = some url then some t
  else
    match PathQuery.ofText (rooted url) with
    | .ok p => t.withPathQuery? p
    | .error _ => none

end Target

end RuleGate
