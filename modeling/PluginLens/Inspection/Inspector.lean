import PluginLens.Report.Basic
import PluginLens.Docs.Extractor

/-!
# Inspecting a plugin file

The inspector runs the stages on one file: read the text, read its syntax, find the primary
export under the configured export slot, resolve the declaration behind it and list its
capabilities, then ask the documentation extractor about the file. A failing stage records
its issue and a warning, and the stages after it in the same chain do not run; the
documentation step runs whatever happened before it, exactly once.

The diagnostics of one inspection, in order: how the text was read, a warning when several
statements claim the primary export, one note per property skipped for having no static
name, how many capabilities were found, and a warning for each failure.
-/

namespace PluginLens

open PluginLens.Text PluginLens.Syntax PluginLens.Docs

/-- What an inspection reads with and where it sends documentation requests. -/
structure Inspector where
  exportSlot : MemberPath
  read : SourceReader
  docs : DocExtractor

/-- A report being built, with the diagnostics emitted so far. -/
structure Progress where
  report : Report
  diagnostics : List Diagnostic
  deriving Inhabited

namespace Progress

def emit (p : Progress) (severity : Severity) (message : String) : Progress :=
  { p with diagnostics := p.diagnostics ++ [⟨severity, message⟩] }

def fail (p : Progress) (e : InspectError) : Progress :=
  { p.emit .warn (p.report.path ++ ": " ++ e.message) with report := p.report.record e }

def update (p : Progress) (f : Report → Report) : Progress := { p with report := f p.report }

end Progress

namespace Inspector

/-- The diagnostics of a resolved binding: one note per skipped property, then the count of
capabilities. -/
def bindingNotes (src : Source) (path : String) (b : ResolvedBinding) : List Diagnostic :=
  (b.extraction.skipped.map fun s =>
    let (line, column) := lineCol src s.span.start
    ⟨.info, s!"{path}:{line}:{column}: skipped property without a static name ({s.reason.label})"⟩) ++
  [⟨.debug, s!"{path}: {b.extraction.capabilities.length} capabilities from {b.kind.label} binding"⟩]

/-- The stages from reading the syntax to listing the capabilities, on the text of a file. -/
def runPipeline (ins : Inspector) (text : String) (p : Progress) : Progress :=
  let path := p.report.path
  match SyntaxTree.build text with
  | .error e => p.fail (InspectError.atOffset e.message e.offset (Source.ofString text))
  | .ok tree =>
    let summary := TreeSummary.of tree
    let p := p.emit .debug
      s!"{path}: parsed as {summary.dialect.name} ({summary.statements} statements, {summary.comments} comments)"
    let statements := tree.statements
    let descriptors := describeExports tree.source statements ins.exportSlot
    let primaries := (descriptors.filter (·.isPrimary)).length
    let p := if primaries > 1 then p.emit .warn s!"{path}: {primaries} primary exports, using the first" else p
    let p := match primaryExport descriptors with
      | .error e => p.fail e
      | .ok primary =>
        let p := p.update fun r => { r with export? := some primary }
        match resolveBinding tree.source statements primary with
        | .error e => p.fail e
        | .ok b =>
          let p := { p with diagnostics := p.diagnostics ++ bindingNotes tree.source path b }
          p.update fun r => { r with bindingKind := some b.kind, capabilities := some b.extraction.capabilities }
    p.update fun r => { r with tree := some summary }

/-- Asks the documentation extractor about the file. -/
def attachDocs (ins : Inspector) (p : Progress) : Progress :=
  match ins.docs [p.report.path] with
  | .ok v => p.update fun r => { r with docComments := some v }
  | .error e => p.fail e

def inspectText (ins : Inspector) (path text : String) : Progress :=
  ins.attachDocs (ins.runPipeline text ⟨Report.empty path, []⟩)

/-- Reads and inspects the file `path`. -/
def inspect (ins : Inspector) (path : String) : Progress :=
  let p : Progress := ⟨Report.empty path, []⟩
  let p := match ins.read path with
    | .ok text => ins.runPipeline text p
    | .error e => p.fail e
  ins.attachDocs p

def inspectMany (ins : Inspector) (paths : List String) : List Progress :=
  paths.map ins.inspect

end Inspector

end PluginLens
