import RuleGate.Cli
import RuleGate.Http.Wire

/-! # The program

The program reads the files that its arguments and settings name, prints what the command line
comes to and, as a server, answers the request on its standard input.
-/
namespace RuleGate.Main

/-- The places that names lead through, each as names without dots. -/
def places (above : List Text) : List Text → List (List Text)
  | [] => []
  | name :: r =>
    let here :=
      if name.isEmpty ∨ name = ['.'] then above
      else if name = ['.', '.'] then above.dropLast
      else above ++ [name]
    here :: places here r

/-- What a path leads to, one level deep. -/
def look (path : Text) : IO (Option FileTree) := do
  let path := (← IO.currentDir) / String.ofList path
  try
    return some (.file (← IO.FS.readBinFile path).toList)
  catch _ => return if ← path.isDir then some (.directory []) else none

/-- Put what is at a place into a tree of files, unless it is there. -/
def put (files : Files) (place : List Text) : IO Files := do
  let path := '/' :: Text.joinWith ['/'] place
  if files.exists? path then return files
  match ← look path with
  | some node => return { files with root := files.root.place place node }
  | none => return files

/-- Put what a path leads to into a tree of files. -/
def load (files : Files) (path : Text) : IO Files :=
  (places [] (Text.splitAll '/' (Path.join files.workingDirectory path))).foldlM put files

/-- The paths that settings name. -/
def settingsPaths (s : Config.Settings) (base : Text) : List Text :=
  (s.rulesFile.map (Path.join base)).toList ++
    (s.listener.tls.map fun t => [t.certificate, t.key]).getD []

/-- The files that a command reads. -/
def gather (command : Cli.Command) : IO Files := do
  let files : Files := ⟨.directory [], text (← IO.currentDir).toString⟩
  match command with
  | .run o =>
    let files ← load files (o.config.getD Cli.defaultConfig)
    match Cli.readSettings files o.config with
    | .ok (settings, base) => (settingsPaths settings base).foldlM load files
    | .error _ => return files
  | _ => return files

/-- The files that a stage may serve for a request. -/
def gatherServed (s : Server) (files : Files) (r : Request) : IO Files := do
  match s.settings.staticRoot, StaticFiles.names? r.target.path with
  | some root, some names =>
    let place := names.foldl Path.join root
    load (← load files place) (Path.join place (text "index.html"))
  | _, _ => return files

def hostName : IO (Option Text) := do
  try
    return some (Text.trim (text (← IO.FS.readFile "/etc/hostname")))
  catch _ => return none

/-- Read until a request is there or the input ends. -/
partial def receive (input : IO.FS.Stream) (soFar : Bytes) : IO (Option Request) := do
  match Wire.request? soFar with
  | some r => return some r
  | none =>
    let more ← input.read 4096
    if more.isEmpty then return none
    receive input (soFar ++ more.toList)

/-- Answer the request on the standard input; no backend can be reached from here. -/
def serve (s : Server) (files : Files) : IO Unit := do
  let some r ← receive (← IO.getStdin) [] | return
  let g := s.gateway (← hostName)
  let seen := match g.dispose r (g.evaluate r) with
    | .stage request _ => request
    | _ => r
  let files ← gatherServed s files seen
  let response := g.handle (s.stage files) (fun _ _ => none) r
  let output ← IO.getStdout
  output.write ⟨(Wire.response response).toArray⟩
  output.flush

end RuleGate.Main

open RuleGate in
def main (args : List String) : IO UInt32 := do
  let args := args.map text
  let files ← Main.gather (Cli.Command.ofArguments args)
  let outcome := Cli.run files args
  (← IO.getStdout).putStr (String.ofList outcome.output)
  (← IO.getStderr).putStr (String.ofList outcome.errors)
  match outcome with
  | .serve server => Main.serve server files
  | _ => pure ()
  return outcome.code.toUInt32
