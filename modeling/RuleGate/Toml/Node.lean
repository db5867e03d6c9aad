import RuleGate.Text.Basic

/-! # TOML documents

A document is a table whose values are scalars, lists and tables again. How a table came about
decides what may be added to it: one written in braces is closed, one with a header of its own
takes no dotted keys from elsewhere, and one that only a path mentions may still get a header.
-/
namespace RuleGate.Toml

inductive TableKind where
  | closed
  | headed
  | implied
  | dotted
  deriving DecidableEq

/-- A value. Of floating numbers and moments in time only their kind is kept. -/
inductive Node where
  | string (t : Text)
  | integer (n : Int)
  | float
  | boolean (b : Bool)
  | moment
  | list (elements : List Node)
  | table (kind : TableKind) (entries : List (Text × Node))
  | tables (elements : List Node)

abbrev Entries := List (Text × Node)

def Entries.get? (es : Entries) (key : Text) : Option Node :=
  (es.find? fun e => e.1 == key).map Prod.snd

/-- Put a value in the place of that of a key, or at the end. -/
def Entries.put : Entries → Text → Node → Entries
  | [], key, n => [(key, n)]
  | (k, v) :: es, key, n => if k = key then (key, n) :: es else (k, v) :: Entries.put es key n

namespace Node

/-- Change the table at the end of a path. Tables on the path that do not exist are made; an array
of tables stands for its last one. A dotted path does not go through tables that have a header. -/
def within (dotted : Bool) (change : Node → Option Node) : (path : List Text) → Node → Option Node
  | [], n => change n
  | key :: path, .table kind es => do
    let child ←
      match Entries.get? es key with
      | none => within dotted change path (.table (if dotted then .dotted else .implied) [])
      | some (.tables l) =>
        match l.getLast? with
        | none => none
        | some last => (within dotted change path last).map fun n => .tables (l.dropLast ++ [n])
      | some (.table .closed _) => none
      | some (.table .headed inner) =>
        if dotted then none else within dotted change path (.table .headed inner)
      | some (.table kind inner) => within dotted change path (.table kind inner)
      | some _ => none
    return .table kind (Entries.put es key child)
  | _, _ => none

/-- Add a key to the table at the end of a dotted path. A key without a path does not go into a
table that dotted keys have made, and one with a path only into such a table. -/
def assign (path : List Text) (key : Text) (value : Node) : Node → Option Node :=
  within true
    (fun
      | .table kind es =>
        if (kind == .dotted) == path.isEmpty || (Entries.get? es key).isSome then none
        else some (.table kind (Entries.put es key value))
      | _ => none)
    path

/-- Open the table of a header. -/
def open? (path : List Text) (key : Text) : Node → Option Node :=
  within false
    (fun
      | .table kind es =>
        match Entries.get? es key with
        | none => some (.table kind (Entries.put es key (.table .headed [])))
        | some (.table .implied inner) =>
          some (.table kind (Entries.put es key (.table .headed inner)))
        | some _ => none
      | _ => none)
    path

/-- Open a further table of the array of tables of a header. -/
def openElement? (path : List Text) (key : Text) : Node → Option Node :=
  within false
    (fun
      | .table kind es =>
        match Entries.get? es key with
        | none => some (.table kind (Entries.put es key (.tables [.table .headed []])))
        | some (.tables l) =>
          some (.table kind (Entries.put es key (.tables (l ++ [.table .headed []]))))
        | some _ => none
      | _ => none)
    path

/-- A table with nothing to be added. -/
def close : Node → Node
  | .table _ es => .table .closed es
  | n => n

end Node

end RuleGate.Toml
