import PluginLens.Text.Source

/-!
# Why an inspection fails

Inspecting a plugin runs in stages: reading the file, reading its syntax, finding the
primary export, finding the declaration behind it, and extracting documentation. Each stage
has its own failure, and `InspectError.message` is the one place their wording lives.
-/

namespace PluginLens

open PluginLens.Text

/-- The stages of an inspection. -/
inductive Stage where
  | read
  | parse
  | exports
  | binding
  | docs
  | other
  deriving DecidableEq, Inhabited, Repr

/-- The name a stage is reported under. -/
def Stage.name : Stage → String
  | .read => "read"
  | .parse => "parse"
  | .exports => "export"
  | .binding => "binding"
  | .docs => "docs"
  | .other => "other"

def Stage.all : List Stage := [.read, .parse, .exports, .binding, .docs, .other]

/-- Why an inspection failed. -/
inductive InspectError where
  | parse (message : String) (offset line column : Nat)
  | noPrimaryExport
  | noBinding (name : Option String)
  | docs (detail : String)
  | read (path message : String)
  deriving Inhabited, Repr, DecidableEq

namespace InspectError

/-- A syntax refusal at byte `offset` of `src`, clamped to the text, with its line and
column. -/
def atOffset (message : String) (offset : Nat) (src : Source) : InspectError :=
  let o := min offset src.byteSize
  let (line, column) := lineCol src o
  .parse message o line column

/-- The stage that failed. -/
def stage : InspectError → Stage
  | .parse .. => .parse
  | .noPrimaryExport => .exports
  | .noBinding _ => .binding
  | .docs _ => .docs
  | .read .. => .read

/-- The message of a failure. -/
def message : InspectError → String
  | .parse m _ line column => s!"parse error at {line}:{column}: {m}"
  | .noPrimaryExport => "no top-level statement assigns the primary export"
  | .noBinding name => "no function or variable declaration named `" ++ name.getD "<anonymous>" ++ "`"
  | .docs detail => "doc-comment extraction failed: " ++ detail
  | .read path m => "cannot read " ++ path ++ ": " ++ m

end InspectError

end PluginLens
