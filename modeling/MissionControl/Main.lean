import MissionControl.Cli.Configgen
import MissionControl.Cli.Missionctl

/-!
# The command line

`configgen ARGS` runs the configuration generator on the working directory; any other command
line runs the service command. The files a command may touch are read first, the command runs,
and the files it wrote are written back; what it printed goes to the standard streams, and its
code is the exit code.
-/

namespace MissionControl

namespace Main

/-- What a path names on disk. -/
inductive Found where
  | file (text : String)
  | other
  | missing

/-- Looks at a path on disk. -/
def probe (path : String) : IO Found := do
  try
    return .file (← IO.FS.readFile path)
  catch e =>
    match e with
    | .noFileOrDirectory .. => return .missing
    | _ => return .other

/-- The directories leading to a path, from the outermost. -/
def ancestors (path : String) : List (List String) :=
  let parts := Files.splitPath path
  (List.range (parts.length - 1)).map fun n => parts.take (n + 1)

/-- The part of the disk that the given paths reach, as a file tree. -/
def gather (paths : List String) : IO Files.Tree := do
  let mut t : Files.Tree := {}
  for path in paths do
    match ← probe path with
    | .file text =>
      if !t.files.any (·.1 == path) then t := { t with files := t.files ++ [(path, text)] }
    | _ => pure ()
    for dir in ancestors path do
      if !dir.isEmpty && dir != [""] then
        match ← probe (Files.joinPath dir) with
        | .other => t := { t with dirs := t.dirs ++ [dir] }
        | _ => pure ()
  return t

/-- Prints what a command printed and gives its exit code. -/
def finish (o : Cli.Outcome) : IO UInt32 := do
  IO.print o.stdout
  IO.eprint o.stderr
  return o.code.toUInt32

end Main

end MissionControl

open MissionControl MissionControl.Main in
/-- Runs a command line. -/
def main (args : List String) : IO UInt32 := do
  match args with
  | "configgen" :: rest =>
    let before ← gather (Cli.generatorPaths rest)
    let (o, after) := Cli.runGenerator rest before
    for (path, text) in after.files do
      if before.files.lookup path != some text then IO.FS.writeFile path text
    finish o
  | _ =>
    let t ← gather (Cli.controlPaths args)
    let mut env : List (String × String) := []
    for name in Cli.controlVariables do
      if let some v ← IO.getEnv name then env := env ++ [(name, v)]
    let (o, _) := Cli.runControl args env t {}
    finish o
