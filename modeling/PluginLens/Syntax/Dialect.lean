import PluginLens.Syntax.Tree

/-!
# Dialects and their rules

A text is read once; each dialect then decides whether the tree is acceptable. A script may
not contain `import`, `export` or `import.meta`, and allows `await` only inside functions; a
module is strict, so `with` is refused, but it allows top-level `await`. Both refuse recovered
syntax errors, `return` outside functions and assignments to what cannot be assigned.

The rules are checked in preorder over every node, anonymous ones included, and the first
violation is the answer. The check walks the tree with an explicit stack of pending nodes
(`checkWalk`), each carrying the two flags it inherits; `firstViolation` is the same search
written as a recursion over the tree, and `checkWalk_cons` says the two agree.
`SyntaxTree.build` tries the script dialect first and falls back to the module dialect,
reporting the module's violation when both refuse.
-/

namespace PluginLens.Syntax

open PluginLens.Text

/-- The two dialects a text may be read in. -/
inductive Dialect where
  | script
  | module
  deriving DecidableEq, Inhabited, Repr

namespace Dialect

def fallbackOrder : List Dialect := [.script, .module]

def name : Dialect → String
  | .script => "script"
  | .module => "module"

def allowsModuleDeclarations : Dialect → Bool
  | .script => false
  | .module => true

def isStrict : Dialect → Bool
  | .script => false
  | .module => true

def allowsTopLevelAwait : Dialect → Bool
  | .script => false
  | .module => true

/-- The dialect of a name, if it names one. -/
def ofName? : String → Option Dialect
  | "script" => some .script
  | "module" => some .module
  | _ => none

end Dialect

/-- A refusal of a text: the message and the byte offset of the offending node. -/
structure SyntaxError where
  message : String
  offset : Nat
  deriving Inhabited, Repr, DecidableEq

def functionExpressionKinds : List String :=
  ["function_expression", "function", "generator_function"]

def functionDeclarationKinds : List String :=
  ["function_declaration", "generator_function_declaration"]

def literalKinds : List String := ["string", "number", "true", "false", "null", "regex"]

def isScopeBoundary (k : String) : Bool :=
  functionExpressionKinds.contains k || functionDeclarationKinds.contains k
    || ["arrow_function", "method_definition", "class", "class_declaration"].contains k

def assignmentTargets : List String :=
  ["identifier", "member_expression", "subscript_expression", "object_pattern", "array_pattern",
    "undefined"]

def snippetLength : Nat := 24

/-- The message for an error node: its text without leading blanks, up to the end of its first
line and at most `snippetLength` characters. -/
def unexpectedMessage (src : Source) (n : Node) : String :=
  let text := trimStartWhite (src.slice n.start n.stop)
  let line := (text.splitOn "\n").head?.getD ""
  let line := if line.endsWith "\r" then (line.dropEnd 1).toString else line
  if line.isEmpty then "Unexpected end of input"
  else "Unexpected `" ++ String.ofList (line.toList.take snippetLength) ++ "`"

/-- Whether a node is `import.meta`. -/
def isImportMeta (src : Source) (n : Node) : Bool :=
  if n.kind == "meta_property" then (src.slice n.start n.stop).startsWith "import"
  else match n.child? "object" with
    | some o => o.kind == "import"
    | none => false

/-- The rule a node breaks in `d`, given whether it stands inside a function and whether it
is a statement of the program itself. -/
def nodeViolation (src : Source) (d : Dialect) (n : Node) (inFunction topLevel : Bool) :
    Option SyntaxError :=
  let at_ (m : String) : Option SyntaxError := some { message := m, offset := n.start }
  match n.kind with
  | "import_statement" | "export_statement" =>
    if !d.allowsModuleDeclarations then
      at_ "`import` and `export` may only appear with sourceType: module"
    else if !topLevel then at_ "`import` and `export` may only appear at the top level"
    else none
  | k =>
    if (k == "meta_property" || k == "member_expression") && isImportMeta src n
        && !d.allowsModuleDeclarations then
      at_ "Cannot use `import.meta` outside a module"
    else if k == "with_statement" && d.isStrict then at_ "`with` in strict mode"
    else if k == "await_expression" && !inFunction && !d.allowsTopLevelAwait then
      at_ "Cannot use keyword `await` outside an async function"
    else if k == "return_statement" && !inFunction then at_ "`return` outside of function"
    else if k == "assignment_expression" || k == "augmented_assignment_expression" then
      match n.child? "left" with
      | some left =>
        if assignmentTargets.contains left.unparen.kind then none
        else some { message := "Assigning to rvalue", offset := left.start }
      | none => none
    else none

mutual
/-- The first violation of `d` in preorder under `n`. -/
def firstViolation (src : Source) (d : Dialect) (n : Node) (inFunction topLevel : Bool) :
    Option SyntaxError :=
  if n.isError then some { message := unexpectedMessage src n, offset := n.start }
  else if n.missing then some { message := "Expected `" ++ n.kind ++ "`", offset := n.start }
  else match nodeViolation src d n inFunction topLevel with
    | some e => some e
    | none =>
      let inner := inFunction || (isScopeBoundary n.kind && !n.kind.startsWith "class")
      match n with
      | .mk kind _ _ _ _ _ children => firstViolationAmong src d children inner (kind == "program")

/-- The first violation among sibling nodes, in order. -/
def firstViolationAmong (src : Source) (d : Dialect) (ns : List Node) (inFunction topLevel : Bool) :
    Option SyntaxError :=
  match ns with
  | [] => none
  | n :: rest =>
    match firstViolation src d n inFunction topLevel with
    | some e => some e
    | none => firstViolationAmong src d rest inFunction topLevel
end

/-- The walk of a dialect's check: the pending nodes, each with whether it stands inside a
function and whether it is a statement of the program, the next one first. A node is checked
when it is popped; its children are then pushed so that the first of them is popped next. -/
def checkWalk (src : Source) (d : Dialect) : List (Node × Bool × Bool) → Option SyntaxError
  | [] => none
  | (n, inFunction, topLevel) :: rest =>
    if n.isError then some { message := unexpectedMessage src n, offset := n.start }
    else if n.missing then some { message := "Expected `" ++ n.kind ++ "`", offset := n.start }
    else match nodeViolation src d n inFunction topLevel with
      | some e => some e
      | none =>
        let inner := inFunction || (isScopeBoundary n.kind && !n.kind.startsWith "class")
        checkWalk src d (n.children.map (fun c => (c, inner, n.kind == "program")) ++ rest)
termination_by stack => Node.sizeAmong (stack.map (·.1))
decreasing_by
  -- the popped node is replaced by its children, which are smaller by the node itself
  simp only [List.map_append, List.map_cons, Node.sizeAmong_append, Node.sizeAmong_map_fst,
    Node.sizeAmong, Node.size_eq]
  omega

section Walk

variable (src : Source) (d : Dialect)

mutual
/-- Popping a node runs the whole recursive search under it before the rest of the stack. -/
theorem checkWalk_cons : ∀ (n : Node) (inFunction topLevel : Bool)
    (rest : List (Node × Bool × Bool)),
    checkWalk src d ((n, inFunction, topLevel) :: rest) =
      (firstViolation src d n inFunction topLevel).or (checkWalk src d rest)
  | .mk kind named missing field start stop children, inFunction, topLevel, rest => by
    rw [checkWalk, firstViolation]
    by_cases he : (Node.mk kind named missing field start stop children).isError = true
    · rw [if_pos he, if_pos he, Option.some_or]
    rw [if_neg he, if_neg he]
    by_cases hm : (Node.mk kind named missing field start stop children).missing = true
    · rw [if_pos hm, if_pos hm, Option.some_or]
    rw [if_neg hm, if_neg hm]
    cases nodeViolation src d (.mk kind named missing field start stop children) inFunction
      topLevel with
    | some e => rfl
    | none =>
      -- the children pushed in order are popped in order, each with the flags it inherits
      exact checkWalk_append children _ _ rest

theorem checkWalk_append : ∀ (cs : List Node) (inFunction topLevel : Bool)
    (rest : List (Node × Bool × Bool)),
    checkWalk src d (cs.map (fun c => (c, inFunction, topLevel)) ++ rest) =
      (firstViolationAmong src d cs inFunction topLevel).or (checkWalk src d rest)
  | [], _, _, rest => by simp [firstViolationAmong]
  | c :: cs, inFunction, topLevel, rest => by
    rw [List.map_cons, List.cons_append, checkWalk_cons, checkWalk_append cs, firstViolationAmong]
    cases firstViolation src d c inFunction topLevel <;> rfl
end

theorem checkWalk_eq_findSome (stack : List (Node × Bool × Bool)) :
    checkWalk src d stack = stack.findSome? fun e => firstViolation src d e.1 e.2.1 e.2.2 := by
  induction stack with
  | nil => rw [checkWalk, List.findSome?_nil]
  | cons e rest ih =>
    obtain ⟨n, inFunction, topLevel⟩ := e
    rw [checkWalk_cons, ih, List.findSome?_cons]
    cases firstViolation src d n inFunction topLevel <;> rfl

theorem checkWalk_root (root : Node) :
    checkWalk src d [(root, false, false)] = firstViolation src d root false false := by
  rw [checkWalk_cons, checkWalk, Option.or_none]

end Walk

/-- A text accepted in a dialect: the dialect, the tree, the comments and the text. -/
structure SyntaxTree where
  dialect : Dialect
  root : Node
  comments : List Comment
  source : Source
  deriving Inhabited

namespace SyntaxTree

/-- Checks a read text against a dialect. -/
def check (src : Source) (p : ParsedText) (d : Dialect) : Except SyntaxError SyntaxTree :=
  match checkWalk src d [(p.root, false, false)] with
  | some e => .error e
  | none => .ok { dialect := d, root := p.root, comments := p.comments, source := src }

theorem check_eq (src : Source) (p : ParsedText) (d : Dialect) :
    check src p d = match firstViolation src d p.root false false with
      | some e => .error e
      | none => .ok { dialect := d, root := p.root, comments := p.comments, source := src } := by
  rw [check, checkWalk_root]

def parseWith (text : String) (d : Dialect) : Except SyntaxError SyntaxTree :=
  let src := Source.ofString text
  check src (ParsedText.ofSource src) d

/-- Accepts a read text as a script, or else as a module; when both refuse it, the module's
refusal is the answer. -/
def accept (src : Source) (p : ParsedText) : Except SyntaxError SyntaxTree :=
  match check src p .script with
  | .ok t => .ok t
  | .error _ => check src p .module

def build (text : String) : Except SyntaxError SyntaxTree :=
  let src := Source.ofString text
  accept src (ParsedText.ofSource src)

def statements (t : SyntaxTree) : List Node :=
  t.root.namedChildren.filter fun n => n.kind != "hash_bang_line" && n.kind != "comment"

def text (t : SyntaxTree) (n : Node) : String := t.source.slice n.start n.stop

end SyntaxTree

end PluginLens.Syntax
