/-!
# A scratch directory

A scratch directory holds files by their slash-separated paths relative to it; its directories
are the parents of its files and the directories made in it. Paths given to the operations
below are resolved the way the system resolves them: empty parts and `.` stay put, `..` goes up
(not above the scratch directory), and every part before the last must be a directory that
exists. A failure is one of three system errors.
-/

namespace MissionControl

namespace Files

/-- A system error of a file operation. -/
inductive Errno where
  | noEntry
  | notDirectory
  | isDirectory
  deriving BEq, Repr

/-- The system's text of an error. -/
def Errno.text : Errno → String
  | .noEntry => "no such file or directory"
  | .notDirectory => "not a directory"
  | .isDirectory => "is a directory"

/-- A scratch directory. -/
structure Tree where
  files : List (String × String) := []
  dirs : List (List String) := []
  deriving Inhabited

/-- The parts of a path held as a list. -/
def joinPath (parts : List String) : String := "/".intercalate parts

/-- The parts of a slash-separated path. -/
def splitPath (path : String) : List String := path.splitOn "/"

namespace Tree

/-- The tree holding the given files. -/
def ofFiles (files : List (String × String)) : Tree := { files }

/-- Whether a resolved path is a file. -/
def isFile (t : Tree) (parts : List String) : Bool := t.files.any (·.1 == joinPath parts)

/-- Whether a resolved path is a directory: the scratch directory itself, a made directory, or a
parent of a file. -/
def isDir (t : Tree) (parts : List String) : Bool :=
  parts.isEmpty || t.dirs.contains parts ||
    t.files.any fun (p, _) => (splitPath p).take parts.length == parts && (splitPath p).length > parts.length

/-- Resolves the leading parts of a path, each of which must be an existing directory. -/
def walk (t : Tree) : List String → List String → Except Errno (List String)
  | here, [] => .ok here
  | here, p :: rest =>
    if p.isEmpty || p == "." then walk t here rest
    else if p == ".." then walk t here.dropLast rest
    else
      let next := here ++ [p]
      if t.isDir next then walk t next rest
      else if t.isFile next then .error .notDirectory
      else .error .noEntry

/-- What a path names once resolved: the directory of its last part, that part (`none` for the
directory itself: an empty path part, `.` or `..`), and whether the path ends with a slash. -/
def locate (t : Tree) (path : String) : Except Errno (List String × Option String × Bool) := do
  let parts := splitPath path
  let last := parts.getLastD ""
  let trailing := last.isEmpty && parts.length > 1
  let front := if trailing then parts.dropLast else parts
  let name := front.getLastD ""
  let dir ← t.walk [] front.dropLast
  if name.isEmpty || name == "." then pure (dir, none, trailing)
  else if name == ".." then pure (dir.dropLast, none, trailing)
  else pure (dir, some name, trailing)

/-- Whether a path names something that exists. -/
def exists? (t : Tree) (path : String) : Except Errno Unit := do
  if path.isEmpty then throw .noEntry
  let (dir, name, trailing) ← t.locate path
  match name with
  | none => pure ()
  | some n =>
    let full := dir ++ [n]
    if t.isDir full then pure ()
    else if t.isFile full then (if trailing then throw .notDirectory else pure ())
    else throw .noEntry

/-- The tree with a file written at a path, made or truncated. -/
def write (t : Tree) (path : String) (content : String) : Except Errno Tree := do
  if path.isEmpty then throw .noEntry
  let (dir, name, trailing) ← t.locate path
  match name with
  | none => throw .isDirectory
  | some n =>
    let full := dir ++ [n]
    if t.isDir full then throw .isDirectory
    else if trailing then (if t.isFile full then throw .notDirectory else throw .isDirectory)
    else
      let key := joinPath full
      if t.isFile full then
        pure { t with files := t.files.map fun f => if f.1 == key then (key, content) else f }
      else pure { t with files := t.files ++ [(key, content)] }

/-- The text of the file at a path. -/
def read (t : Tree) (path : String) : Except Errno String := do
  if path.isEmpty then throw .noEntry
  let (dir, name, trailing) ← t.locate path
  match name with
  | none => throw .isDirectory
  | some n =>
    let full := dir ++ [n]
    match t.files.lookup (joinPath full) with
    | some content => if trailing then throw .notDirectory else pure content
    | none => if t.isDir full then throw .isDirectory else throw .noEntry

/-- The text of the file at a path, or why it cannot be read: opening fails on a missing path,
and reading fails on a directory. -/
def source (t : Tree) (path : String) : Except String String :=
  match t.read path with
  | .ok content => .ok content
  | .error .isDirectory => .error ("read " ++ path ++ ": " ++ Errno.isDirectory.text)
  | .error e => .error ("open " ++ path ++ ": " ++ e.text)

end Tree

end Files

end MissionControl
