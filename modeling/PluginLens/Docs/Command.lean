/-!
# Documentation commands

An external documentation extractor is a program run with its configured arguments
followed by the files to document; what it prints is the documentation data.
-/

namespace PluginLens.Docs

/-- A program and the arguments it is run with. -/
structure CommandSpec where
  program : String
  args : List String
  deriving DecidableEq, Inhabited, Repr

def CommandSpec.build (program : String) (args paths : List String) : CommandSpec :=
  { program, args := args ++ paths }

end PluginLens.Docs
