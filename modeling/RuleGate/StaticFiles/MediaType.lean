import RuleGate.Text.Basic

/-! # Media types of files

The media type of a file follows from the extension of its name, without regard to case.
-/
namespace RuleGate.MediaType

/-- Media types, each with the extensions that it belongs to. -/
def table : List (String × List String) :=
  [("text/plain", ["txt", "text", "log", "conf", "cfg", "ini", "c", "h", "cc", "cpp", "hpp", "def",
      "dic", "in", "list", "java", "py", "pl", "bat", "cmd", "asm", "asc", "properties", "sql"]),
    ("text/html", ["html", "htm", "shtml"]),
    ("text/css", ["css"]),
    ("text/javascript", ["js", "mjs"]),
    ("text/xml", ["xml", "xsd", "xsl", "xslt", "dtd", "config"]),
    ("text/csv", ["csv"]),
    ("text/markdown", ["md", "markdown"]),
    ("text/calendar", ["ics"]),
    ("text/vtt", ["vtt"]),
    ("text/x-toml", ["toml"]),
    ("text/x-yaml", ["yaml", "yml"]),
    ("text/tab-separated-values", ["tsv"]),
    ("application/json", ["json"]),
    ("application/ld+json", ["jsonld"]),
    ("application/manifest+json", ["webmanifest"]),
    ("application/pdf", ["pdf"]),
    ("application/zip", ["zip"]),
    ("application/gzip", ["gz"]),
    ("application/x-tar", ["tar"]),
    ("application/x-gtar", ["gtar"]),
    ("application/x-7z-compressed", ["7z"]),
    ("application/x-bzip2", ["bz2"]),
    ("application/x-sh", ["sh"]),
    ("application/wasm", ["wasm"]),
    ("application/xhtml+xml", ["xhtml", "xht"]),
    ("application/atom+xml", ["atom"]),
    ("application/rss+xml", ["rss"]),
    ("application/rtf", ["rtf"]),
    ("application/msword", ["doc", "dot"]),
    ("application/java-archive", ["jar"]),
    ("application/vnd.ms-fontobject", ["eot"]),
    ("application/x-x509-ca-cert", ["cer", "crt", "der", "pem"]),
    ("image/png", ["png"]),
    ("image/jpeg", ["jpg", "jpeg", "jpe"]),
    ("image/gif", ["gif"]),
    ("image/svg+xml", ["svg", "svgz"]),
    ("image/webp", ["webp"]),
    ("image/avif", ["avif"]),
    ("image/bmp", ["bmp", "dib"]),
    ("image/tiff", ["tif", "tiff"]),
    ("image/x-icon", ["ico"]),
    ("font/woff", ["woff"]),
    ("font/woff2", ["woff2"]),
    ("font/ttf", ["ttf"]),
    ("font/otf", ["otf"]),
    ("audio/mpeg", ["mp3", "mpga", "m4a"]),
    ("audio/ogg", ["ogg", "oga", "opus"]),
    ("audio/wav", ["wav"]),
    ("video/mp4", ["mp4", "m4v"]),
    ("video/mpeg", ["mpeg", "mpg"]),
    ("video/ogg", ["ogv"]),
    ("video/quicktime", ["mov"]),
    ("video/webm", ["webm"]),
    ("video/x-msvideo", ["avi"])]

/-- The type of a file whose extension says nothing. -/
def unknown : Text := text "application/octet-stream"

/-- The text after the last full stop of a name, if something stands before it. -/
def extension? (name : Text) : Option Text :=
  let ending := name.reverse.takeWhile (· != '.')
  if ending.length + 1 < name.length then some (Text.lower ending.reverse) else none

def ofName (name : Text) : Text :=
  match extension? name with
  | none => unknown
  | some e =>
    match table.find? fun row => row.2.any fun x => text x == e with
    | some row => text row.1
    | none => unknown

end RuleGate.MediaType
