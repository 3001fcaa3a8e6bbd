import PluginLens.Command.Script.Run
import PluginLens.Command.Outcome

/-!
# Starting a program

A documentation command starts one program in the workspace: the shell, `env`, or one of
the installed utilities, found by name on the search path or by its path in a system
directory. Any other program cannot be started, as the system reports for a program that
is not installed, or for a file of the workspace, which is not executable.

The program runs with an empty standard input and its output collected. A run that goes on
past the step budget is cut off as if killed.
-/

namespace PluginLens.Command

open ByteStr

def runFuel : Nat := 1000000

def stepBudget : Nat := 200000

def firstPid : Nat := 4242

/-- The program a name starts, or why none starts. A name with a slash is a path from the
workspace: a file or directory there exists but cannot be run, since nothing in the workspace
is executable, and a path through a file is not a directory. -/
def startTarget (ws : Workspace) (program : String) : Except IoError String :=
  if program.contains '/' then
    match pathTarget ws [] (ofString program) with
    | .program p => .ok p
    | .denied => .error .permissionDenied
    | _ =>
      match locate ws [] (ofString program) with
      | .notDir => .error .notDirectory
      | _ => .error .notFound
  else if isProgram program then .ok program
  else .error .notFound

/-- Runs a program with its arguments in a workspace; answers how it ended and what it
wrote, or why it could not be started. -/
def startProgram (ws : Workspace) (program : String) (args : List String) :
    Except IoError Outcome :=
  match startTarget ws program with
  | .error e => .error e
  | .ok prog =>
    let world : World := { ws, streams := #[[]], nextPid := firstPid + 1, steps := stepBudget }
    let proc : Proc :=
      { vars := startEnvironment, arg0 := ofString program, params := [], fds := standardFds,
        shellPid := firstPid, self := firstPid }
    let action : Sh Nat :=
      runProgramAs runFuel firstPid prog (ofString program) (args.map ofString)
    let (r, sh) := (action.run).run { proc, world }
    let ending : Ending := match r with
      | .ok st => .exited (st % 256)
      | .error (.exit s) => .exited (s % 256)
      | .error .error => .exited 2
      | .error (.killed sig _) => .killed sig
      | .error .exhausted => .killed 9
    .ok { ending, stdout := sh.world.out, stderr := sh.world.err }

end PluginLens.Command
