import PluginLens.Command.Paths
import PluginLens.Command.Utility.Options

/-!
# Running a utility

A utility is given its arguments, its standard input, the workspace and the working
directory; it answers what it wrote to its standard output and standard error (in order, as
the two may go to the same place), its exit status, whether it read its input, and the
workspace when it changed files.

Utilities name files as the system does: a missing file is "No such file or directory", a
directory read as a file "Is a directory", a path through a file "Not a directory".
-/

namespace PluginLens.Command

open ByteStr

/-- What a utility is run with. -/
structure Invocation where
  /-- The program's name as it was called, for its messages. -/
  name : String
  args : List ByteStr
  stdin : ByteStr
  ws : Workspace
  cwd : List String
  /-- The environment, for the utilities that show or pass it. -/
  env : List (ByteStr × ByteStr) := []

/-- What a utility did. -/
structure Finished where
  /-- Output by descriptor, latest first. -/
  writes : List (Nat × ByteStr) := []
  status : Nat := 0
  /-- Whether it read its standard input. -/
  readInput : Bool := false
  /-- The workspace after it, when it changed files. -/
  ws : Option Workspace := none
  deriving Inhabited

namespace Finished

def out (f : Finished) (b : ByteStr) : Finished :=
  if b.isEmpty then f else { f with writes := (1, b) :: f.writes }

def err (f : Finished) (b : ByteStr) : Finished :=
  if b.isEmpty then f else { f with writes := (2, b) :: f.writes }

def exit (f : Finished) (n : Nat) : Finished := { f with status := n }

end Finished

def utilityMessage (name : String) (msg : ByteStr) : ByteStr :=
  name.toList ++ ": ".toList ++ msg ++ ['\n']

def tryHelp (name : String) : ByteStr :=
  ("Try '" ++ name ++ " --help' for more information.\n").toList

def usageFailure (name : String) (msg : ByteStr) (status : Nat := 1) : Finished :=
  ({} : Finished).err (utilityMessage name msg ++ tryHelp name) |>.exit status

def versionText (name : String) : ByteStr :=
  (name ++ " (coreutils) 9.4\n").toList

/-- What reading a file operand gave. -/
inductive Contents where
  | bytes (b : ByteStr)
  | failed (reason : String)
  deriving Inhabited

def readOperand (inv : Invocation) (path : ByteStr) : Contents :=
  if path == ['-'] then .bytes inv.stdin
  else match locate inv.ws inv.cwd path with
    | .regular _ b => .bytes (ofBytes b)
    | .directory _ => .failed "Is a directory"
    | .device "/dev/stdin" => .bytes inv.stdin
    | .device _ => .bytes []
    | .missing | .noParent => .failed "No such file or directory"
    | .notDir => .failed "Not a directory"

def linesOf (b : ByteStr) : List ByteStr :=
  go (b.length + 1) b []
where
  go : Nat → ByteStr → List ByteStr → List ByteStr
    | 0, _, acc => acc.reverse
    | _ + 1, [], acc => acc.reverse
    | n + 1, s, acc =>
      let line := s.takeWhile (· != '\n')
      let rest := s.drop (line.length + 1)
      let full := if line.length < s.length then line ++ ['\n'] else line
      go n rest (full :: acc)

end PluginLens.Command
