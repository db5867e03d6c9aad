import RuleGate.FileTree
import RuleGate.Gateway
import RuleGate.StaticFiles.MediaType
import RuleGate.StaticFiles.Range

/-! # Files as a stage

A path leads to a file below a root; two dots lead nowhere. A directory is answered by its index
page when the path ends in a slash, and by a redirect to the path with a slash when it does not.
-/
namespace RuleGate.StaticFiles

/-- The names that a path leads through. -/
def names? (path : Text) : Option (List Text) := do
  let t ← Utf8.decode? (Percent.decode (Utf8.encode (path.dropWhile (· == '/'))))
  if Path.isAbsolute t then none
  else
    let names := (Text.splitAll '/' t).filter fun n => !n.isEmpty && n != ['.']
    if names.contains ['.', '.'] then none else return names

/-- The response when a file cannot be opened. -/
def faultResponse : FileFault → Response
  | .notFound | .notADirectory => Response.bare .notFound
  | _ => Response.bare .internalServerError

def field (name : String) (value : Text) : Text × Bytes := (text name, Utf8.encode value)

/-- The response with a file, of which a range header may ask for parts. -/
def fileResponse (name : Text) (content : Bytes) (range : Option Text) : Response :=
  let size := content.length
  let headers :=
    [field "content-type" (MediaType.ofName name), field "accept-ranges" (text "bytes")]
  let refused (message : String) : Response :=
    ⟨.rangeNotSatisfiable,
      headers ++ [field "content-range" (text "bytes */" ++ Text.ofNat size)],
      { bytes := Utf8.encode (text message) }⟩
  match range with
  | none => ⟨.ok, headers, { bytes := content }⟩
  | some range =>
    match ByteRange.ofHeader? size range with
    | some [r] =>
      ⟨.partialContent,
        headers ++ [field "content-range" (text "bytes " ++ Text.ofNat r.first ++ ['-'] ++
          Text.ofNat r.last ++ ['/'] ++ Text.ofNat size)],
        { bytes := (content.drop r.first).take (r.last + 1 - r.first) }⟩
    | some _ => refused "Cannot serve multipart range requests"
    | none => refused ""

/-- The same target with a slash at the end of its path. -/
def withSlash? (t : Target) : Option Target := do
  let p ← t.pathQuery?
  let query := (p.query?.map ('?' :: ·)).getD []
  match PathQuery.ofText (p.path ++ '/' :: query) with
  | .ok p => t.withPathQuery? p
  | .error _ => none

/-- The response for a place that can be opened. -/
def openPlace (f : Files) (place : Text) (r : Request) : Response :=
  let name := (place.reverse.takeWhile (· != '/')).reverse
  match f.find place with
  | .error fault => faultResponse fault
  | .ok (.file content) => fileResponse name content (r.header? (text "range"))
  | .ok (.directory _) =>
    { fileResponse name [] none with body := { bytes := [], broken := true } }

/-- The response for names below the root. -/
def respond (f : Files) (root : Text) (r : Request) (names : List Text) : Response :=
  let place := names.foldl Path.join root
  match f.find place with
  | .ok (.directory _) =>
    if r.target.path.getLast? = some '/' then openPlace f (Path.join place (text "index.html")) r
    else
      match withSlash? r.target with
      | some t => ⟨.temporaryRedirect, [field "location" t.toText], Body.empty⟩
      | none => Response.bare .internalServerError
  | _ => openPlace f place r

/-- The stage that serves the files below a root. -/
def stage (f : Files) (root : Text) : Stage := fun r _ =>
  if r.method != text "GET" && r.method != text "HEAD" then
    ⟨.methodNotAllowed, [field "allow" (text "GET,HEAD")], Body.empty⟩
  else
    match names? r.target.path with
    | none => Response.bare .notFound
    | some names => respond f root r names

end RuleGate.StaticFiles
