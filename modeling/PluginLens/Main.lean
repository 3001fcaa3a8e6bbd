import PluginLens.Cli.Run

/-!
# The command-line program

The program gathers what a run may look at from the working directory, runs the command on
it, writes the files the run wrote, prints its output and log lines, and exits with its
status.

This layer reads files by name only: it learns whether a named path is a file (and reads
it), a directory, or nothing, but it does not list directories. The configuration file, the
input files and the output's directory are therefore seen as they are, while a folder is
seen as an existing directory with no files in it.
-/

namespace PluginLens.Cli

/-- What a path names on the file system: a file with its bytes, a directory, or nothing. -/
def probe (path : String) : IO (Option (Sum ByteArray Unit)) := do
  match ← (IO.FS.readBinFile path).toBaseIO with
  | .ok bytes => pure (some (.inl bytes))
  | .error (.inappropriateType _ 21 _) => pure (some (.inr ()))
  | .error _ => pure none

/-- The directory holding a path, as written. -/
def directoryOf (path : String) : String :=
  match (path.splitOn "/").dropLast with
  | [] => "."
  | parts => "/".intercalate parts

/-- The workspace a command line may look at. -/
def workspaceFor (args : List String) : IO Workspace := do
  match parseArguments args with
  | .ok (.run inv) =>
    let paths := inv.inputs ++ inv.folders ++ inv.config.toList ++
      (inv.output.toList.flatMap fun o => [o, directoryOf o])
    let mut files : List (String × ByteArray) := []
    let mut dirs : List String := []
    for p in paths do
      match ← probe p with
      | some (.inl bytes) => files := files ++ [(p, bytes)]
      | some (.inr ()) => dirs := dirs ++ [p]
      | none => pure ()
    pure (Workspace.ofLists files dirs)
  | _ => pure (Workspace.ofLists [] [])

end PluginLens.Cli

open PluginLens PluginLens.Cli in
/-- Runs the command on the working directory. -/
def main (args : List String) : IO UInt32 := do
  let ws ← workspaceFor args
  let logSetting ← IO.getEnv "RUST_LOG"
  let out := runCommand { ws, logSetting } args
  for (path, text) in out.written do
    IO.FS.writeFile path text
  let stderr ← IO.getStderr
  for line in out.logs do
    stderr.putStrLn line
  IO.print out.stdout
  stderr.putStr out.stderr
  pure out.status.toUInt32
