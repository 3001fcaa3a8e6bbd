import PluginLens.Plugin.MemberPath
import PluginLens.Plugin.Declaration
import PluginLens.Inspection.Error

/-!
# Exports

A plugin exports its value by assigning it to a member path (`module.exports = build`) or by
`export default`. `describeExports` lists every such top-level statement; a default export
is always primary, an assignment is primary when its path is the configured export slot.
-/

namespace PluginLens

open PluginLens.Text PluginLens.Syntax

/-- How a plugin exports its value. -/
inductive ExportForm where
  | assignment
  | defaultExport
  deriving DecidableEq, Inhabited, Repr

def ExportForm.name : ExportForm → String
  | .assignment => "assignment"
  | .defaultExport => "default_export"

/-- A half-open byte range of the text. -/
structure Span where
  start : Nat
  stop : Nat
  deriving DecidableEq, Inhabited, Repr

namespace Span

def ofNode (n : Node) : Span := ⟨n.start, n.stop⟩

def length (s : Span) : Nat := s.stop - s.start

def slice (s : Span) (src : Source) : String := src.slice s.start s.stop

end Span

/-- One exporting statement. -/
structure ExportDescriptor where
  isPrimary : Bool
  exportedName : Option String
  renderedStatement : String
  form : ExportForm
  span : Span
  deriving DecidableEq, Inhabited, Repr

/-- Describes an `export default` statement: the name of the exported declaration, function
or class, or of the exported identifier. -/
def describeDefault (src : Source) (stmt : Node) : ExportDescriptor :=
  let name := stmt.defaultExported?.bind fun n =>
    if n.kind == "class" || n.kind == "class_declaration" || n.isFunction then n.declaredName? src
    else n.identName? src
  { isPrimary := true, exportedName := name
    renderedStatement := "export default " ++ name.getD "?"
    form := .defaultExport, span := Span.ofNode stmt }

/-- Describes an expression statement that assigns with `=`: the path assigned to and the
name of the value (a literal's text, an identifier, or a function's name). -/
def describeAssignment (src : Source) (slot : MemberPath) (stmt : Node) :
    Option ExportDescriptor := do
  let e := (← stmt.firstNamed?).unparen
  if e.kind != "assignment_expression" then none
  let path := MemberPath.ofNode? src (← e.child? "left")
  let right := (← e.child? "right").unparen
  let name :=
    if literalKinds.contains right.kind || right.kind == "identifier" || right.kind == "undefined"
    then some (src.slice right.start right.stop)
    else if right.isFunction then right.declaredName? src
    else none
  some { isPrimary := path == some slot, exportedName := name
         renderedStatement := (path.map MemberPath.render).getD "?" ++ " = " ++ name.getD "?"
         form := .assignment, span := Span.ofNode stmt }

/-- Every exporting statement among the top-level statements, in order. -/
def describeExports (src : Source) (statements : List Node) (slot : MemberPath) :
    List ExportDescriptor :=
  statements.filterMap fun s =>
    if s.kind == "export_statement" && s.isDefaultExport then some (describeDefault src s)
    else if s.kind == "expression_statement" then describeAssignment src slot s
    else none

/-- The first primary export. -/
def primaryExport (ds : List ExportDescriptor) : Except InspectError ExportDescriptor :=
  match ds.find? (·.isPrimary) with
  | some d => .ok d
  | none => .error .noPrimaryExport

end PluginLens
