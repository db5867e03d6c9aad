import RuleGate.Text.Percent

/-! # Query mappings

A query is a list of segments between ampersands. A segment that is not empty has a name and a
value around its first equals sign, in both of which a plus sign is a blank and bytes may be
percent-encoded. The mapping keeps the values of each name in order.
-/
namespace RuleGate

/-- The names of a query in order of appearance, each with its values in order. -/
structure Query where
  params : List (Text × List Text)
  deriving DecidableEq

namespace Query

/-- The text that a name or value stands for. -/
def decode (t : Text) : Text :=
  Utf8.decodeLossy (Percent.decode (Utf8.encode (t.map fun c => if c = '+' then ' ' else c)))

/-- The name and value of a segment. -/
def pair (segment : Text) : Text × Text :=
  let (name, value) := Text.cut '=' segment
  (decode name, decode (value.getD []))

/-- Add a value at the end of those of its name. -/
def insert (name value : Text) : List (Text × List Text) → List (Text × List Text)
  | [] => [(name, [value])]
  | (n, vs) :: r => if n = name then (n, vs ++ [value]) :: r else (n, vs) :: insert name value r

/-- The names and values of a query text. -/
def pairs (query : Text) : List (Text × Text) :=
  ((Text.splitAll '&' query).filter fun s => !s.isEmpty).map pair

/-- The mapping of a query text. -/
def parse (query : Text) : Query :=
  ⟨(pairs query).foldl (fun m p => insert p.1 p.2 m) []⟩

/-- The mapping of what follows the first question mark of a URL. -/
def ofUrl? (url : Text) : Option Query := (Text.cut '?' url).2.map parse

/-- All values of a name. -/
def getAll (q : Query) (name : Text) : List Text :=
  match q.params.find? fun p => p.1 == name with
  | some p => p.2
  | none => []

/-- The first value of a name. -/
def get? (q : Query) (name : Text) : Option Text := (q.getAll name).head?

def contains (q : Query) (name : Text) : Bool := q.params.any fun p => p.1 == name

/-- The number of names. -/
def size (q : Query) : Nat := q.params.length

def isEmpty (q : Query) : Bool := q.params.isEmpty

end Query

end RuleGate
