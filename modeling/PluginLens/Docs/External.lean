import PluginLens.Docs.Extractor
import PluginLens.Docs.Command
import PluginLens.Command.Outcome
import PluginLens.Workspace.Basic
import PluginLens.Json.Read
import PluginLens.Text.Blank

/-!
# Documentation from an external command

The command extractor runs its program with the configured arguments and the paths, and
reads what the program prints as JSON. How a program is run is not the extractor's concern: it
takes the runner as a parameter, which answers how the run ended and what it wrote, or why the
program could not be started. It fails when the program cannot be started, when
it does not exit with status 0 (the status is shown as `Some(n)`, or `None` for a run ended
by a signal, with the trimmed error output), or when its output is not one JSON value.
-/

namespace PluginLens.Docs

open PluginLens.Command PluginLens.Text

def exitCodeText : Ending → String
  | .exited s => s!"Some({s})"
  | .killed _ => "None"

/-- The extractor that runs `program` with `args`, then the paths, through `run`. -/
def commandExtractor (run : String → List String → Except IoError Outcome) (program : String)
    (args : List String) : DocExtractor :=
  fun paths =>
    let spec := CommandSpec.build program args paths
    match run spec.program spec.args with
    | .error e => .error (.docs (spec.program ++ " could not be started: " ++ e.message))
    | .ok o =>
      if !o.succeeded then
        .error (.docs (spec.program ++ " failed with exit code " ++ exitCodeText o.ending ++ ": " ++
          trimWhite (lossyText o.stderr)))
      else match Json.parse (lossyText o.stdout) with
        | .ok v => .ok v
        | .error e => .error (.docs (spec.program ++ " produced invalid JSON: " ++ e.message))

end PluginLens.Docs
