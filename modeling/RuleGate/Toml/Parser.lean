import RuleGate.Toml.Scalar

/-! # Reading TOML

A document is read line by line: keys with values, and headers, which name the table that the
lines after them belong to. Values nest less than 80 deep, and keys have less than 80 parts.
-/
namespace RuleGate.Toml

def isSpace (c : Char) : Bool := c == ' ' || c == '\t'

/-- Characters that may stand in comments and literal strings. -/
def isPlain (c : Char) : Bool := c == '\t' || (0x20 ≤ c.toNat && c.toNat != 0x7F)

def dropSpaces (t : Text) : Text := t.dropWhile isSpace

/-- The rest after the end of a line. -/
def lineEnd? : Text → Option Text
  | [] => some []
  | '\n' :: r => some r
  | '\r' :: '\n' :: r => some r
  | _ => none

/-- The rest after spaces, a comment and the end of the line. -/
def endLine? (t : Text) : Option Text :=
  match dropSpaces t with
  | '#' :: r => lineEnd? (r.dropWhile isPlain)
  | r => lineEnd? r

/-- The rest after spaces, comments and ends of lines. -/
def dropLines : (comment : Bool) → Text → Option Text
  | _, [] => some []
  | _, '\n' :: r => dropLines false r
  | _, '\r' :: '\n' :: r => dropLines false r
  | true, c :: r => if isPlain c then dropLines true r else none
  | false, '#' :: r => dropLines true r
  | false, c :: r => if isSpace c then dropLines false r else some (c :: r)

/-- The character of a code point in hexadecimal digits. -/
def codePoint? (digits : Text) : Option Char := do
  let n ← digits.foldlM (fun n c => (Text.hexValue? c).map (16 * n + ·)) 0
  if n.isValidChar then some (Char.ofNat n) else none

/-- The character that an escape stands for, after its backslash. -/
def escape? : Text → Option (Char × Text)
  | 'b' :: r => some ('\x08', r)
  | 't' :: r => some ('\t', r)
  | 'n' :: r => some ('\n', r)
  | 'f' :: r => some ('\x0c', r)
  | 'r' :: r => some ('\r', r)
  | '"' :: r => some ('"', r)
  | '\\' :: r => some ('\\', r)
  | 'u' :: r => if 4 ≤ r.length then (codePoint? (r.take 4)).map (·, r.drop 4) else none
  | 'U' :: r => if 8 ≤ r.length then (codePoint? (r.take 8)).map (·, r.drop 8) else none
  | _ => none

/-- The inside of a string after its opening quote. -/
def basic? : (fuel : Nat) → Text → Option (Text × Text)
  | 0, _ => none
  | fuel + 1, t =>
    match t with
    | [] => none
    | '"' :: r => some ([], r)
    | '\\' :: r => do
      let (c, r) ← escape? r
      let (s, rest) ← basic? fuel r
      return (c :: s, rest)
    | c :: r => do
      if !isPlain c then none
      let (s, rest) ← basic? fuel r
      return (c :: s, rest)

/-- The inside of a literal string after its opening quote. -/
def literal? (t : Text) : Option (Text × Text) :=
  match Text.cut '\'' t with
  | (s, some rest) => if s.all isPlain then some (s, rest) else none
  | _ => none

/-- Up to two quotes may stand right before the three that end a string of several lines. -/
def closing? (q : Char) (t : Text) : Option (Text × Text) :=
  let quotes := (t.takeWhile (· == q)).length
  if quotes < 3 then none
  else
    let inner := min (quotes - 3) 2
    some (List.replicate inner q, t.drop (inner + 3))

/-- The rest after a backslash at the end of a line and the blanks at the beginning of the next
lines. -/
def continuation? (t : Text) : Option Text :=
  match dropSpaces t with
  | '\n' :: r | '\r' :: '\n' :: r => some (dropBlanks r)
  | _ => none
where
  dropBlanks : Text → Text
    | '\r' :: '\n' :: r => dropBlanks r
    | c :: r => if isSpace c || c == '\n' then dropBlanks r else c :: r
    | [] => []

/-- The inside of a string of several lines. In a literal one a backslash is no escape. -/
def lines? (q : Char) : (fuel : Nat) → Text → Option (Text × Text)
  | 0, _ => none
  | fuel + 1, t =>
    match closing? q t with
    | some closed => some closed
    | none =>
      let more (c : Char) (r : Text) : Option (Text × Text) :=
        (lines? q fuel r).map fun (s, rest) => (c :: s, rest)
      match t with
      | [] => none
      | '\r' :: '\n' :: r | '\n' :: r => more '\n' r
      | c :: r =>
        if c = '\\' ∧ q = '"' then
          match continuation? r with
          | some r => lines? q fuel r
          | none => (escape? r).bind fun (c, r) => more c r
        else if isPlain c then more c r
        else none

/-- A line end right after the opening quotes does not count. -/
def dropFirstLineEnd : Text → Text
  | '\n' :: r | '\r' :: '\n' :: r => r
  | t => t

/-- A string in any of its four forms. -/
def string? (t : Text) : Option (Text × Text) :=
  match t with
  | '"' :: '"' :: '"' :: r => lines? '"' (r.length + 1) (dropFirstLineEnd r)
  | '"' :: r => basic? (r.length + 1) r
  | '\'' :: '\'' :: '\'' :: r => lines? '\'' (r.length + 1) (dropFirstLineEnd r)
  | '\'' :: r => literal? r
  | _ => none

def isKeyChar (c : Char) : Bool := Text.isLetter c || Text.isDigit c || c == '_' || c == '-'

/-- One part of a key: a word, or a string on one line. -/
def keyPart? (t : Text) : Option (Text × Text) :=
  match t with
  | '"' :: r => basic? (r.length + 1) r
  | '\'' :: r => literal? r
  | t =>
    let word := t.takeWhile isKeyChar
    if word.isEmpty then none else some (word, t.dropWhile isKeyChar)

/-- How deeply values nest and how many parts a key has stays below this. -/
def maxDepth : Nat := 80

/-- The parts of a key between dots: those before the last, and the last. -/
def key? : (fuel : Nat) → Text → Option (List Text × Text × Text)
  | 0, _ => none
  | fuel + 1, t => do
    let (part, r) ← keyPart? (dropSpaces t)
    match dropSpaces r with
    | '.' :: r =>
      let (path, last, rest) ← key? fuel r
      return (part :: path, last, rest)
    | rest => return ([], part, rest)

def fullKey? (t : Text) : Option (List Text × Text × Text) := key? (maxDepth - 1) t

/-- Characters that end a word. -/
def isWordEnd (c : Char) : Bool :=
  isSpace c || c == ',' || c == ']' || c == '\x7d' || c == '#' || c == '\n' || c == '\r'

/-- A scalar that is no string. A date and a time may have a space between them. -/
def scalar? (t : Text) : Option (Node × Text) := do
  let word := t.takeWhile (!isWordEnd ·)
  let rest := t.dropWhile (!isWordEnd ·)
  let node ← word? word
  match rest with
  | ' ' :: r =>
    if isDate word ∧ isTimeWithOffset (r.takeWhile (!isWordEnd ·)) then
      return (.moment, r.dropWhile (!isWordEnd ·))
    return (node, rest)
  | _ => return (node, rest)

mutual

/-- A value; `depth` more levels of lists and tables may be opened. -/
def value? (depth : Nat) : (fuel : Nat) → Text → Option (Node × Text)
  | 0, _ => none
  | fuel + 1, t =>
    match t with
    | '"' :: _ | '\'' :: _ => (string? t).map fun (s, rest) => (.string s, rest)
    | '[' :: r => if depth = 0 then none else elements? (depth - 1) fuel [] r
    | '\x7b' :: r =>
      if depth = 0 then none
      else
        match dropSpaces r with
        | '\x7d' :: rest => some (.table .closed [], rest)
        | r => pairs? (depth - 1) fuel (.table .headed []) r
    | t => scalar? t

/-- The elements of a list up to its closing bracket; the last may have a comma after it. -/
def elements? (depth : Nat) : (fuel : Nat) → List Node → Text → Option (Node × Text)
  | 0, _, _ => none
  | fuel + 1, before, t => do
    match ← dropLines false t with
    | ']' :: rest => return (.list before.reverse, rest)
    | t =>
      let (n, r) ← value? depth fuel t
      match ← dropLines false r with
      | ',' :: r => elements? depth fuel (n :: before) r
      | ']' :: rest => return (.list (n :: before).reverse, rest)
      | _ => none

/-- The keys and values of a table in braces, on one line and with no comma after the last. -/
def pairs? (depth : Nat) : (fuel : Nat) → Node → Text → Option (Node × Text)
  | 0, _, _ => none
  | fuel + 1, table, t => do
    let (path, key, r) ← fullKey? t
    match r with
    | '=' :: r =>
      let (n, r) ← value? depth fuel (dropSpaces r)
      let table ← Node.assign path key n table
      match dropSpaces r with
      | ',' :: r => pairs? depth fuel table r
      | '\x7d' :: rest => return (table.close, rest)
      | _ => none
    | _ => none

end

/-- The lines of a document from here on; `header` is the table that they belong to. -/
def document? : (fuel : Nat) → (header : List Text) → Node → Text → Option Node
  | 0, _, _, _ => none
  | fuel + 1, header, root, t => do
    match ← dropLines false t with
    | [] => return root
    | '[' :: '[' :: r =>
      let (path, key, r) ← fullKey? r
      match r with
      | ']' :: ']' :: r =>
        document? fuel (path ++ [key]) (← root.openElement? path key) (← endLine? r)
      | _ => none
    | '[' :: r =>
      let (path, key, r) ← fullKey? r
      match r with
      | ']' :: r => document? fuel (path ++ [key]) (← root.open? path key) (← endLine? r)
      | _ => none
    | t =>
      let (path, key, r) ← fullKey? t
      match r with
      | '=' :: r =>
        let (n, r) ← value? (maxDepth - 1) (r.length + 1) (dropSpaces r)
        document? fuel header (← root.within false (Node.assign path key n) header) (← endLine? r)
      | _ => none

/-- Read a document, which may begin with a byte order mark. -/
def parse? (t : Text) : Option Node :=
  let t := match t with
    | '\uFEFF' :: r => r
    | t => t
  document? (t.length + 1) [] (.table .headed []) t

end RuleGate.Toml
