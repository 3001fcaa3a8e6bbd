/-!
# Workspaces

A workspace is the directory inspections run in: files with their bytes and directories,
named by paths relative to it. A path is read the way a POSIX system reads it: components
separated by `/`, empty and `.` components ignored, `..` going up. A directory exists when it
was made or when something lies below it. Paths that leave the workspace name nothing.

Reading a file as text fails as the system reports it: the path names nothing, names a
directory, passes through a file as if it were a directory, or holds bytes that are not
UTF-8. Writing a file needs its directory to exist.
-/

namespace PluginLens

/-- Why a file could not be read or written, or a socket bound, as the operating system says
it. -/
inductive IoError where
  | notFound
  | isDirectory
  | notDirectory
  | invalidUtf8
  | networkUnreachable
  | permissionDenied
  deriving DecidableEq, Inhabited, Repr

/-- The system's message for a failure. -/
def IoError.message : IoError → String
  | .notFound => "No such file or directory (os error 2)"
  | .isDirectory => "Is a directory (os error 21)"
  | .notDirectory => "Not a directory (os error 20)"
  | .invalidUtf8 => "stream did not contain valid UTF-8"
  | .networkUnreachable => "Network is unreachable (os error 101)"
  | .permissionDenied => "Permission denied (os error 13)"

/-- Files and directories, by their components relative to the workspace. -/
structure Workspace where
  files : List (List String × ByteArray)
  dirs : List (List String)
  deriving Inhabited

namespace Workspace

/-- The components a path names inside the workspace; `none` for a path outside it. -/
def resolve (p : String) : Option (List String) :=
  if p.startsWith "/" then none
  else
    (p.splitOn "/").foldl (fun acc part =>
      acc.bind fun cs =>
        if part == "" || part == "." then some cs
        else if part == ".." then (if cs.isEmpty then none else some cs.dropLast)
        else some (cs ++ [part])) (some [])

def wantsDirectory (p : String) : Bool :=
  p.endsWith "/" || p.endsWith "/." || p == "."

def fileAt? (ws : Workspace) (cs : List String) : Option ByteArray :=
  (ws.files.find? (·.1 == cs)).map (·.2)

/-- Whether these components name a directory: the workspace itself, a directory made, or a
proper prefix of something in it. -/
def isDirAt (ws : Workspace) (cs : List String) : Bool :=
  cs.isEmpty || ws.dirs.contains cs ||
    ws.dirs.any (fun d => d.length > cs.length && d.take cs.length == cs) ||
    ws.files.any (fun (f, _) => f.length > cs.length && f.take cs.length == cs)

/-- What a path names. -/
inductive Entry where
  | file (bytes : ByteArray)
  | directory
  | missing
  | blocked

/-- What a path names: a file, a directory, nothing, or a path through a file. -/
def entry (ws : Workspace) (p : String) : Entry :=
  match resolve p with
  | none => .missing
  | some cs =>
    if (List.range cs.length).any (fun k => k > 0 && (ws.fileAt? (cs.take k)).isSome) then .blocked
    else match ws.fileAt? cs with
      | some bytes => if wantsDirectory p then .blocked else .file bytes
      | none => if ws.isDirAt cs then .directory else .missing

/-- Reads a file as UTF-8 text. -/
def readText (ws : Workspace) (p : String) : Except IoError String :=
  match ws.entry p with
  | .file bytes =>
    match String.fromUTF8? bytes with
    | some s => .ok s
    | none => .error .invalidUtf8
  | .directory => .error .isDirectory
  | .missing => .error .notFound
  | .blocked => .error .notDirectory

/-- Creates or replaces a file; its directory must exist, and a path ending in `/` names a
directory, which cannot be written. -/
def write (ws : Workspace) (p : String) (bytes : ByteArray) : Except IoError Workspace :=
  match ws.entry p with
  | .directory => .error .isDirectory
  | .blocked => .error .notDirectory
  | .file _ =>
    match resolve p with
    | some cs => .ok { ws with files := ws.files.map fun (f, b) => if f == cs then (f, bytes) else (f, b) }
    | none => .error .notFound
  | .missing =>
    match resolve p with
    | some cs =>
      if cs.isEmpty || !ws.isDirAt cs.dropLast then .error .notFound
      else if p.endsWith "/" then .error .isDirectory
      else .ok { ws with files := ws.files ++ [(cs, bytes)] }
    | none => .error .notFound

/-- The names directly inside the directory at these components. -/
def children (ws : Workspace) (cs : List String) : List String :=
  let below (f : List String) : Option String :=
    if f.length > cs.length && f.take cs.length == cs then f[cs.length]? else none
  ((ws.files.map (·.1) ++ ws.dirs).filterMap below).eraseDups

/-- The workspace with the file at these components holding exactly these bytes, made when
missing. -/
def setAt (ws : Workspace) (cs : List String) (bytes : ByteArray) : Workspace :=
  if ws.files.any (·.1 == cs) then
    { ws with files := ws.files.map fun (f, b) => if f == cs then (f, bytes) else (f, b) }
  else { ws with files := ws.files ++ [(cs, bytes)] }

/-- The workspace with bytes added at the end of the file at these components, made when
missing. -/
def appendAt (ws : Workspace) (cs : List String) (bytes : ByteArray) : Workspace :=
  if ws.files.any (·.1 == cs) then
    { ws with files := ws.files.map fun (f, b) => if f == cs then (f, b ++ bytes) else (f, b) }
  else { ws with files := ws.files ++ [(cs, bytes)] }

def removeAt (ws : Workspace) (cs : List String) : Workspace :=
  { ws with files := ws.files.filter (·.1 != cs) }

def makeDirAt (ws : Workspace) (cs : List String) : Workspace :=
  if ws.dirs.contains cs then ws else { ws with dirs := ws.dirs ++ [cs] }

def ofLists (files : List (String × ByteArray)) (dirs : List String) : Workspace :=
  { files := files.filterMap fun (p, b) => (resolve p).map (·, b)
    dirs := dirs.filterMap resolve }

end Workspace

end PluginLens
