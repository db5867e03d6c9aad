import RuleGate.Text.Utf8

/-! # Files

A tree of directories and files, read by paths. A path is walked name by name; two dots lead back
to the directory above, and only a directory has names after it.
-/
namespace RuleGate

inductive FileTree where
  | file (content : Bytes)
  | directory (entries : List (Text × FileTree))

/-- Why a file cannot be read. -/
inductive FileFault where
  | notFound
  | notADirectory
  | isADirectory
  | nameTooLong
  | nulInName
  | notUtf8
  deriving DecidableEq, Repr

def FileFault.message : FileFault → Text
  | .notFound => text "No such file or directory (os error 2)"
  | .notADirectory => text "Not a directory (os error 20)"
  | .isADirectory => text "Is a directory (os error 21)"
  | .nameTooLong => text "File name too long (os error 36)"
  | .nulInName => text "file name contained an unexpected NUL byte"
  | .notUtf8 => text "stream did not contain valid UTF-8"

namespace FileTree

def maxNameBytes : Nat := 255
def maxPathBytes : Nat := 4095

/-- Walk names from a place whose directories above are `above`, nearest first. -/
def walk (above : List FileTree) (here : FileTree) : List Text → Except FileFault FileTree
  | [] => .ok here
  | name :: names =>
    match here with
    | .file _ => .error .notADirectory
    | .directory entries =>
      if name.isEmpty ∨ name = ['.'] then walk above here names
      else if name = ['.', '.'] then
        match above with
        | [] => walk [] here names
        | up :: above => walk above up names
      else if maxNameBytes < (Utf8.encode name).length then .error .nameTooLong
      else
        match entries.find? fun e => e.1 == name with
        | none => .error .notFound
        | some (_, child) => walk (here :: above) child names

/-- Put a node at the end of names, with the directories on the way. -/
def place : FileTree → List Text → FileTree → FileTree
  | _, [], node => node
  | here, name :: names, node =>
    let entries := match here with
      | .file _ => []
      | .directory entries => entries
    let old := ((entries.find? fun e => e.1 == name).map Prod.snd).getD (.directory [])
    .directory ((entries.filter fun e => e.1 != name) ++ [(name, place old names node)])

end FileTree

namespace Path

def isAbsolute : Text → Bool
  | '/' :: _ => true
  | _ => false

/-- A path that starts in a directory, if it is not absolute itself. -/
def join (base path : Text) : Text :=
  if isAbsolute path ∨ base.isEmpty then path
  else if base.getLast? = some '/' then base ++ path
  else base ++ '/' :: path

/-- The text without slashes and single dots between them at its end, given in reverse. -/
def dropTrailing : Text → Text
  | '/' :: r => dropTrailing r
  | '.' :: '/' :: r => dropTrailing ('/' :: r)
  | r => r

/-- The directory in which the last name of a path stands; empty for a single name. -/
def parent (path : Text) : Text :=
  let above := (dropTrailing path.reverse).dropWhile (· != '/')
  let up := (dropTrailing above).reverse
  if up.isEmpty ∧ isAbsolute path then ['/'] else up

end Path

/-- The files that a program sees, and the directory from which relative paths start. -/
structure Files where
  root : FileTree
  workingDirectory : Text := ['/']

namespace Files

/-- What a path leads to. -/
def find (f : Files) (path : Text) : Except FileFault FileTree :=
  if path.contains (Char.ofNat 0) then .error .nulInName
  else if path.isEmpty then .error .notFound
  else if maxPath < (Utf8.encode path).length then .error .nameTooLong
  else FileTree.walk [] f.root (Text.splitAll '/' (Path.join f.workingDirectory path))
where
  maxPath := FileTree.maxPathBytes

def exists? (f : Files) (path : Text) : Bool :=
  match f.find path with
  | .ok _ => true
  | .error _ => false

/-- The content of a file. -/
def read (f : Files) (path : Text) : Except FileFault Bytes :=
  match f.find path with
  | .ok (.file content) => .ok content
  | .ok (.directory _) => .error .isADirectory
  | .error fault => .error fault

/-- The content of a file that has to be UTF-8. -/
def readText (f : Files) (path : Text) : Except FileFault Text := do
  match Utf8.decode? (← f.read path) with
  | some t => return t
  | none => throw .notUtf8

end Files

end RuleGate
