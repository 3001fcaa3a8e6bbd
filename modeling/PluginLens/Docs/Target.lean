import PluginLens.Plugin.MemberPath
import PluginLens.Plugin.Declaration
import PluginLens.Syntax.Value

/-!
# What a documentation block documents

A block documents the declaration that follows it with nothing but blanks between: a
function or class declaration, each declarator of a `var`/`let`/`const` declaration, an
assignment to a member path, an `export default` value, a class method or field, or a
property of an object literal. Each such place is a target: where it starts (for a
declaration under `export`, where the `export` keyword starts), the name it gives, what kind
of thing it is, and for functions their simple parameter names and whether they are `async`.
Targets are listed in document order, and a block takes the first one starting at or after
its end.
-/

namespace PluginLens.Docs

open PluginLens.Text PluginLens.Syntax

/-- What a target is. -/
inductive TargetKind where
  | function
  | classDecl
  | constant
  | member
  | constructor
  deriving DecidableEq, Inhabited, Repr

/-- The name a target kind is written as. -/
def TargetKind.name : TargetKind → String
  | .function => "function"
  | .classDecl => "class"
  | .constant => "constant"
  | .member => "member"
  | .constructor => "constructor"

/-- A documentable place. -/
structure DocTarget where
  start : Nat
  name : String
  kind : TargetKind
  params : List String
  isAsync : Bool
  deriving DecidableEq, Inhabited, Repr

/-- What a value is, seen through parentheses: a function (arrow or not), a class, or
anything else. -/
def kindOfValue (v : Node) : TargetKind :=
  let e := v.unparen
  if e.kind == "arrow_function" then .function
  else if e.kind == "class" then .classDecl
  else if e.isFunction then .function
  else .member

/-- The simple parameter names of a function: a single arrow parameter, or each plain name,
the name before a default, and a rest name written `...name`; destructured parameters have
none. -/
def paramNames (src : Source) (f : Node) : List String :=
  match f.child? "parameter" with
  | some p => [src.slice p.start p.stop]
  | none =>
    match f.child? "parameters" with
    | none => []
    | some ps => ps.namedChildren.filterMap fun p =>
      match p.kind with
      | "identifier" => some (src.slice p.start p.stop)
      | "assignment_pattern" =>
        match p.child? "left" with
        | some l => if l.kind == "identifier" then some (src.slice l.start l.stop) else none
        | none => none
      | "rest_pattern" =>
        match p.firstNamed? with
        | some a => if a.kind == "identifier" then some ("..." ++ src.slice a.start a.stop) else none
        | none => none
      | _ => none

/-- Parameter names and `async` of a value that is a function; nothing otherwise. -/
def signature (src : Source) (v : Node) : List String × Bool :=
  let e := v.unparen
  if e.kind == "arrow_function" || e.isFunction then (paramNames src e, e.hasToken "async")
  else ([], false)

def valueTarget (src : Source) (start : Nat) (name : String) (v : Node) : DocTarget :=
  let (params, isAsync) := signature src v
  { start, name, kind := kindOfValue v, params, isAsync }

def plainTarget (start : Nat) (name : String) (kind : TargetKind) : DocTarget :=
  { start, name, kind, params := [], isAsync := false }

/-- The targets of the declarators of a declaration starting at `start`: the first
declarator is documented from the start of the declaration, the others from their own
start; declarators that destructure have no target. -/
def declaratorTargets (src : Source) (isConst : Bool) (start : Nat) (ds : List Node) :
    List DocTarget :=
  (ds.zipIdx.filterMap fun (d, i) =>
    match d.child? "name" with
    | some id =>
      if id.kind != "identifier" then none
      else
        let origin := if i == 0 then start else d.start
        let name := src.slice id.start id.stop
        match d.child? "value" with
        | some v =>
          if kindOfValue v != .member then some (valueTarget src origin name v)
          else some (plainTarget origin name (if isConst then .constant else .member))
        | none => some (plainTarget origin name (if isConst then .constant else .member))
    | none => none)

/-- The targets a node itself gives (not those of its children), documented from `origin`. -/
def ownTargets (src : Source) (parentKind : String) (origin : Nat) (n : Node) : List DocTarget :=
  let textOf := fun (m : Node) => src.slice m.start m.stop
  if functionDeclarationKinds.contains n.kind then
    [{ start := origin, name := ((n.child? "name").map textOf).getD "default", kind := .function,
       params := paramNames src n, isAsync := n.hasToken "async" }]
  else match n.kind with
  | "class_declaration" => [plainTarget origin (((n.child? "name").map textOf).getD "") .classDecl]
  | "lexical_declaration" | "variable_declaration" =>
    let isConst := (n.child? "kind").map textOf == some "const"
    declaratorTargets src isConst origin (n.namedChildren.filter (·.kind == "variable_declarator"))
  | "expression_statement" =>
    match n.firstNamed? with
    | some e =>
      let a := e.unparen
      if a.kind != "assignment_expression" then []
      else match (a.child? "left").bind (MemberPath.ofNode? src), a.child? "right" with
        | some path, some right => [valueTarget src origin (path.segments.getLast?.getD "") right]
        | _, _ => []
    | none => []
  | "export_statement" =>
    if n.hasToken "default" then
      match n.child? "value" with
      | some v => [valueTarget src origin "default" v]
      | none => []
    else []
  | "method_definition" =>
    match (n.child? "name").bind (keyName src) with
    | some name =>
      let kind := if parentKind == "class_body" && name == "constructor" then .constructor else .function
      [{ start := origin, name, kind, params := paramNames src n, isAsync := n.hasToken "async" }]
    | none => []
  | "field_definition" =>
    match (n.child? "property").bind (keyName src) with
    | some name =>
      match n.child? "value" with
      | some v => [valueTarget src origin name v]
      | none => [plainTarget origin name .member]
    | none => []
  | "pair" =>
    if parentKind != "object" then []
    else match (n.child? "key").bind (keyName src), n.child? "value" with
      | some name, some v => [valueTarget src origin name v]
      | _, _ => []
  | "shorthand_property_identifier" => [plainTarget origin (textOf n) .member]
  | _ => []

mutual
/-- The targets of a node and of everything under it, in preorder. `lead` is where the node
is documented from when that is not its own start. -/
def targetsOf (src : Source) (parentKind : String) (lead : Option Nat) : Node → List DocTarget
  | n@(.mk kind _ _ _ start _ children) =>
    let origin := lead.getD start
    let childLead := if kind == "export_statement" && (n.child? "declaration").isSome then some origin else none
    ownTargets src parentKind origin n ++ targetsAmong src kind childLead children

/-- The targets under the named children of a node of kind `parentKind`; the first child
filling the `declaration` field is documented from `lead`. -/
def targetsAmong (src : Source) (parentKind : String) (lead : Option Nat) :
    List Node → List DocTarget
  | [] => []
  | c :: rest =>
    if !c.named then targetsAmong src parentKind lead rest
    else if lead.isSome && c.field == some "declaration" then
      targetsOf src parentKind lead c ++ targetsAmong src parentKind none rest
    else targetsOf src parentKind none c ++ targetsAmong src parentKind lead rest
end

def targets (src : Source) (root : Node) : List DocTarget :=
  (targetsOf src "" none root).mergeSort fun a b => a.start ≤ b.start

/-- The index of the first element of `xs` that fails `p`, found by binary search: a window
of `size` elements from `base` is halved at its middle until one element is left, keeping the
upper half when the middle element satisfies `p`. The answer is meaningful when `p` holds of a
prefix of `xs` only; the number of steps depends on the length alone. -/
def partitionPoint {α : Type} (p : α → Bool) (xs : List α) : Nat :=
  if xs.isEmpty then 0
  else
    let base := go xs.length 0
    if (xs[base]?).any p then base + 1 else base
where
  go (size base : Nat) : Nat :=
    if size ≤ 1 then base
    else
      let half := size / 2
      let mid := base + half
      go (size - half) (if (xs[mid]?).any p then mid else base)
  termination_by size
  decreasing_by omega

/-- The target a block ending at `blockEnd` documents: in targets sorted by start, the first
one starting at or after it, when the text between is a whole range of the source holding only
blanks. -/
def targetAfter (src : Source) (ts : List DocTarget) (blockEnd : Nat) : Option DocTarget :=
  match ts[partitionPoint (·.start < blockEnd) ts]? with
  | some t =>
    match src.slice? blockEnd t.start with
    | some gap => if (trimWhite gap).isEmpty then some t else none
    | none => none
  | none => none

end PluginLens.Docs
