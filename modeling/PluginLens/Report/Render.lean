import PluginLens.Report.Basic
import PluginLens.Json.Print

/-!
# Writing reports

A report is written either as data (`Report.toJson`, members in a fixed order, absent parts
as `null`) or as a short text block (`Report.toText`): the path, then one indented line per
part that is present, one line per capability showing only the first line of its value, and
one line per issue.
-/

namespace PluginLens

open PluginLens.Syntax

/-- The text up to the first line feed, without a carriage return before it. -/
def firstLine (s : String) : String :=
  match s.splitOn "\n" with
  | [only] => only
  | first :: _ => if first.endsWith "\r" then (first.dropEnd 1).toString else first
  | [] => ""

def TreeSummary.toJson (t : TreeSummary) : Json :=
  .obj [("mode", .str t.dialect.name), ("statements", Json.nat t.statements),
    ("comments", Json.nat t.comments), ("source_len", Json.nat t.sourceLength)]

/-- An export as data, its span flattened into `start` and `end`. -/
def ExportDescriptor.toJson (d : ExportDescriptor) : Json :=
  .obj [("is_primary", .bool d.isPrimary), ("exported_name", Json.opt .str d.exportedName),
    ("rendered_statement", .str d.renderedStatement), ("form", .str d.form.name),
    ("start", Json.nat d.span.start), ("end", Json.nat d.span.stop)]

/-- A capability as data, its span flattened into `start` and `end`. -/
def Capability.toJson (c : Capability) : Json :=
  .obj [("name", .str c.name), ("value_kind", .str c.valueKind.name),
    ("source_text", .str c.sourceText), ("start", Json.nat c.span.start),
    ("end", Json.nat c.span.stop)]

def Issue.toJson (i : Issue) : Json :=
  .obj [("stage", .str i.stage.name), ("message", .str i.message)]

namespace Report

/-- A report as data. -/
def toJson (r : Report) : Json :=
  .obj [("path", .str r.path), ("tree", Json.opt TreeSummary.toJson r.tree),
    ("export", Json.opt ExportDescriptor.toJson r.export?),
    ("binding_kind", Json.opt (fun k => .str k.name) r.bindingKind),
    ("capabilities", Json.opt (fun cs => .arr (cs.map Capability.toJson)) r.capabilities),
    ("doc_comments", Json.opt id r.docComments),
    ("issues", .arr (r.issues.map Issue.toJson))]

/-- The number of documentation entries, when the documentation data is a list. -/
def docletCount? (r : Report) : Option Nat :=
  match r.docComments with
  | some (.arr items) => some items.length
  | _ => none

/-- A report as a text block, without a final line feed. -/
def toText (r : Report) : String :=
  let tree := r.tree.toList.map fun t =>
    s!"  mode: {t.dialect.name} ({t.statements} statements)"
  let exported := r.export?.toList.map fun e => "  export: " ++ e.renderedStatement
  let caps := r.capabilities.toList.flatMap fun cs =>
    s!"  capabilities ({cs.length}):" :: cs.map fun c =>
      "    - " ++ c.name ++ " [" ++ c.valueKind.name ++ "] " ++ firstLine c.sourceText
  let docs := r.docletCount?.toList.map fun n => s!"  doclets: {n}"
  let issues := r.issues.map fun i => "  ! " ++ i.stage.name ++ ": " ++ i.message
  "\n".intercalate (r.path :: tree ++ exported ++ caps ++ docs ++ issues)

end Report

/-- How reports are written out. -/
inductive OutputFormat where
  | json
  | text
  deriving DecidableEq, Inhabited, Repr

/-- The format of a name; the names are matched exactly. -/
def OutputFormat.ofName (name : String) : Except String OutputFormat :=
  match name with
  | "json" => .ok .json
  | "text" => .ok .text
  | other => .error ("Unknown output format: " ++ other ++ " (expected json or text)")

/-- The written form of a list of reports: one indented data array, or one text block per
report; either way the output ends with a line feed. -/
def OutputFormat.render : OutputFormat → List Report → String
  | .json, rs => Json.pretty 0 (.arr (rs.map Report.toJson)) ++ "\n"
  | .text, rs => String.join (rs.map fun r => r.toText ++ "\n")

end PluginLens
