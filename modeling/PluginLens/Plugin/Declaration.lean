import PluginLens.Syntax.Dialect

/-!
# Shapes of declarations

Questions the export, binding and capability stages ask of a tree: the name an expression
or a declaration carries, whether a statement is `export default`, which function a
top-level statement declares, the declarators of a `var`, `let` or `const`, and the
`return` statements that belong to a function itself.
-/

namespace PluginLens.Syntax

open PluginLens.Text

namespace Node

def identName? (src : Source) (n : Node) : Option String :=
  let e := n.unparen
  if e.kind == "identifier" then some (src.slice e.start e.stop) else none

def isDefaultExport (n : Node) : Bool := n.kind == "export_statement" && n.hasToken "default"

def isFunction (n : Node) : Bool :=
  n.named && (functionDeclarationKinds.contains n.kind || functionExpressionKinds.contains n.kind)

/-- The exported thing of an `export default` statement: its declaration, or its value seen
through parentheses. -/
def defaultExported? (n : Node) : Option Node :=
  match n.child? "declaration" with
  | some d => some d
  | none => (n.child? "value").map Node.unparen

/-- The function a top-level statement declares: itself, or the function of an
`export default`. -/
def declaredFunction? (n : Node) : Option Node :=
  if functionDeclarationKinds.contains n.kind then some n
  else if !n.isDefaultExport then none
  else match n.defaultExported? with
    | some f => if f.isFunction then some f else none
    | none => none

def declaredName? (src : Source) (n : Node) : Option String :=
  (n.child? "name").map fun m => src.slice m.start m.stop

/-- The declarators of a `var`, `let` or `const` statement. -/
def declaratorsOf (n : Node) : List Node :=
  if n.kind == "lexical_declaration" || n.kind == "variable_declaration" then
    n.namedChildren.filter (·.kind == "variable_declarator")
  else []

def objectLiteral? (n : Node) : Option Node :=
  let e := n.unparen
  if e.kind == "object" then some e else none

mutual
/-- The `return` statements under `n` in source order, not looking into nested functions or
classes. -/
def returnsUnder (n : Node) : List Node :=
  if n.kind == "return_statement" then [n]
  else match n with
    | .mk _ _ _ _ _ _ children => returnsAmong children

/-- The `return` statements under named nodes of a list that open no scope. -/
def returnsAmong : List Node → List Node
  | [] => []
  | c :: rest =>
    (if c.named && c.kind != "comment" && !isScopeBoundary c.kind then returnsUnder c else [])
      ++ returnsAmong rest
end

/-- The `return` statements that belong to a function itself. -/
def returnsOf (f : Node) : List Node :=
  match f.child? "body" with
  | some body => returnsUnder body
  | none => []

def returnArgument? (n : Node) : Option Node :=
  if n.kind == "return_statement" then n.firstNamed? else none

end Node

end PluginLens.Syntax
