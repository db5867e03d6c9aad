import RuleGate.Http.Message

/-! # Messages on a connection

A message is a line, header fields, an empty line and a body. Lines end with a line feed, before
which a carriage return does not count. The body of a request is as long as its field
`content-length` says.
-/
namespace RuleGate.Wire

/-- The lines before the first empty one, and the bytes after that. -/
def cutHead? (b : Bytes) : Option (List Bytes × Bytes) :=
  go [] [] b
where
  go (done : List Bytes) (line : Bytes) : Bytes → Option (List Bytes × Bytes)
    | [] => none
    | 10 :: r =>
      let line := (if line.head? = some 13 then line.drop 1 else line).reverse
      if line.isEmpty then some (done.reverse, r) else go (line :: done) [] r
    | b :: r => go done (b :: line) r

/-- The name and value of a header field. -/
def field? (line : Bytes) : Option (Text × Bytes) :=
  let name := (line.takeWhile (· != 58)).map fun b => Char.ofNat b.toNat
  let isPad (b : UInt8) : Bool := b == 32 || b == 9
  let value := (((line.dropWhile (· != 58)).drop 1).dropWhile isPad).reverse.dropWhile isPad
  if name.isEmpty || !name.all isTokenChar || !line.contains 58 || !isFieldValue value then none
  else some (Text.lower name, value.reverse)

/-- Method and target of the first line. -/
def requestLine? (line : Bytes) : Option (Text × Target) := do
  match Text.splitAll ' ' (← Utf8.decode? line) with
  | [method, target, _] =>
    if method.isEmpty || !method.all isTokenChar then none
    else return (method, ← (Target.parse target).toOption)
  | _ => none

/-- The length of the body that header fields announce. -/
def bodyLength (h : Headers) : Nat :=
  match (h.get? (text "content-length")).bind fieldText? with
  | some t => if t.all Text.isDigit then Text.decimal t else 0
  | none => 0

/-- The request at the beginning of what has come in, `none` if it is not all there or is faulty. -/
def request? (b : Bytes) : Option Request := do
  let (head, rest) ← cutHead? b
  let (first, fields) ← match head with
    | [] => none
    | first :: fields => some (first, fields)
  let (method, target) ← requestLine? first
  let headers ← fields.mapM field?
  let size := bodyLength headers
  if rest.length < size then none
  else return ⟨method, target, headers, { bytes := rest.take size }⟩

/-- The bytes of a response after which the connection is closed. -/
def response (r : Response) : Bytes :=
  let line (t : Text) : Bytes := Utf8.encode t ++ [13, 10]
  let fields := (r.headers.without (text "content-length")).flatMap fun f =>
    Utf8.encode (f.1 ++ text ": ") ++ f.2 ++ [13, 10]
  line (text "HTTP/1.1 " ++ Text.ofNat r.status.code ++ [' ']) ++ fields ++
    line (text "content-length: " ++ Text.ofNat r.body.bytes.length) ++
    line (text "connection: close") ++ line [] ++ r.body.bytes

end RuleGate.Wire
