import PluginLens.Inspection.Error
import PluginLens.Syntax.Dialect
import PluginLens.Plugin.Binding
import PluginLens.Json.Value

/-!
# Inspection reports

What inspecting one plugin file found: a summary of its syntax tree, its primary export, the
kind of declaration behind it, the capabilities that declaration exposes, the documentation
data, and one issue per stage that failed. Each stage either fills its field or records an
issue, so a report is complete exactly when no issue was recorded.

While a report is built, the inspection also says what it does: diagnostics with a severity
and a message, in the order they were emitted.
-/

namespace PluginLens

open PluginLens.Syntax

/-- How much a diagnostic matters. -/
inductive Severity where
  | debug
  | info
  | warn
  deriving DecidableEq, Inhabited, Repr

/-- The name of a severity. -/
def Severity.name : Severity → String
  | .debug => "debug"
  | .info => "info"
  | .warn => "warn"

/-- A message about an inspection in progress. -/
structure Diagnostic where
  severity : Severity
  message : String
  deriving DecidableEq, Inhabited, Repr

/-- The size of a read syntax tree. -/
structure TreeSummary where
  dialect : Dialect
  statements : Nat
  comments : Nat
  /-- Length of the text in bytes. -/
  sourceLength : Nat
  deriving DecidableEq, Inhabited, Repr

def TreeSummary.of (t : SyntaxTree) : TreeSummary :=
  { dialect := t.dialect, statements := t.statements.length, comments := t.comments.length,
    sourceLength := t.source.byteSize }

/-- A stage that failed, with the failure's message. -/
structure Issue where
  stage : Stage
  message : String
  deriving DecidableEq, Inhabited, Repr

def Issue.of (e : InspectError) : Issue := ⟨e.stage, e.message⟩

/-- What inspecting one file found. -/
structure Report where
  path : String
  tree : Option TreeSummary
  export? : Option ExportDescriptor
  bindingKind : Option BindingKind
  capabilities : Option CapabilitySet
  /-- Documentation data as the extractor gave it. -/
  docComments : Option Json
  issues : List Issue
  deriving Inhabited

namespace Report

def empty (path : String) : Report :=
  { path, tree := none, export? := none, bindingKind := none, capabilities := none,
    docComments := none, issues := [] }

def record (r : Report) (e : InspectError) : Report :=
  { r with issues := r.issues ++ [Issue.of e] }

def isComplete (r : Report) : Bool := r.issues.isEmpty

def issue? (r : Report) (s : Stage) : Option Issue := r.issues.find? (·.stage == s)

def capabilityNames (r : Report) : List String :=
  (r.capabilities.map fun cs => cs.map (·.name)).getD []

end Report

end PluginLens
