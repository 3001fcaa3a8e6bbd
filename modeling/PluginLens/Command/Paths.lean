import PluginLens.Command.ByteStr
import PluginLens.Workspace.Basic

/-!
# Paths seen from a working directory

Commands name files by paths: relative ones are read from the working directory (a directory
of the workspace), absolute ones name the system around it, of which only a few well-known
directories and device files are known to exist. What a path names is one of the kinds
below; the two kinds of absence differ in their messages (a missing file, or a missing
directory on the way), as does a path that runs through a file.
-/

namespace PluginLens.Command

open ByteStr

/-- What a path names. -/
inductive Node where
  | regular (cs : List String) (bytes : ByteArray)
  | directory (cs : Option (List String))
  | device (name : String)
  | missing
  | noParent
  | notDir
  deriving Inhabited

def systemDirs : List String :=
  ["/", "/dev", "/tmp", "/usr", "/bin", "/etc", "/usr/bin", "/usr/local", "/usr/local/bin",
   "/proc", "/var", "/home", "/root", "/sbin", "/usr/sbin", "/lib", "/usr/lib", "/dev/fd"]

def systemDevices : List String :=
  ["/dev/null", "/dev/zero", "/dev/stdin", "/dev/stdout", "/dev/stderr", "/dev/tty",
   "/dev/urandom", "/dev/random", "/dev/full"]

def cwdPrefix (cwd : List String) : String :=
  cwd.foldl (fun acc c => acc ++ c ++ "/") ""

/-- The components of a path relative to the working directory, when it stays inside the
workspace. -/
def insideOf? (cwd : List String) (path : ByteStr) : Option (List String) :=
  match toString? path with
  | some text => if text.startsWith "/" then none else Workspace.resolve (cwdPrefix cwd ++ text)
  | none => none

def locateSystem (text : String) : Node :=
  let plain := if text.length > 1 && text.endsWith "/" then (text.dropEnd 1).toString else text
  if systemDevices.contains plain then .device plain
  else if systemDirs.contains plain then .directory none
  else
    let parent := match (plain.splitOn "/").dropLast with
      | [""] => "/"
      | parts => "/".intercalate parts
    if systemDirs.contains parent then .missing
    else if systemDevices.contains parent then .notDir
    else .noParent

def locate (ws : Workspace) (cwd : List String) (path : ByteStr) : Node :=
  match toString? path with
  | none => .missing
  | some text =>
    if text.startsWith "/" then locateSystem text
    else
      let rel := cwdPrefix cwd ++ text
      match ws.entry rel, Workspace.resolve rel with
      | .file bytes, some cs => .regular cs bytes
      | .file _, none => .missing
      | .directory, cs => .directory cs
      | .blocked, _ => .notDir
      | .missing, some cs => if ws.isDirAt cs.dropLast then .missing else .noParent
      | .missing, none => .missing

end PluginLens.Command
