import PluginLens.Text.Source

/-!
# Concrete syntax trees

A node has a kind (`if_statement`, `identifier`, or the text of an anonymous token such as
`(` or `async`), says whether it is named, whether it is a token the parser had to assume
(`missing`), which field of its parent it fills, and the byte range it covers: from the start
of its first token to the end of its last, tokens without a node of their own (an inferred
semicolon) included. Comments are not children; they are kept beside the tree.

The queries here are the ones the analyses use: children by field, named children, anonymous
tokens, and looking through parentheses.
-/

namespace PluginLens.Syntax

/-- A node of a concrete syntax tree. -/
inductive Node where
  | mk (kind : String) (named : Bool) (missing : Bool) (field : Option String)
      (start stop : Nat) (children : List Node)
  deriving Inhabited, Repr

namespace Node

def kind : Node → String
  | mk k .. => k

def named : Node → Bool
  | mk _ n .. => n

def missing : Node → Bool
  | mk _ _ m .. => m

def field : Node → Option String
  | mk _ _ _ f .. => f

def start : Node → Nat
  | mk _ _ _ _ s .. => s

def stop : Node → Nat
  | mk _ _ _ _ _ e _ => e

def children : Node → List Node
  | mk _ _ _ _ _ _ cs => cs

def withField (n : Node) (f : Option String) : Node :=
  match n with
  | mk k nm m _ s e cs => mk k nm m f s e cs

def isError (n : Node) : Bool := n.kind == "ERROR"

def child? (n : Node) (f : String) : Option Node :=
  n.children.find? (·.field == some f)

def namedChildren (n : Node) : List Node :=
  n.children.filter (·.named)

def isPart (c : Node) : Bool := c.named && c.kind != "comment"

def firstNamed? (n : Node) : Option Node :=
  n.children.find? isPart

def hasToken (n : Node) (t : String) : Bool :=
  n.children.any fun c => !c.named && c.kind == t

mutual
/-- The expression inside any number of parentheses. -/
def unparen : Node → Node
  | mk k nm m f s e cs =>
    if k == "parenthesized_expression" then
      match firstNamedUnparen cs with
      | some inner => inner
      | none => mk k nm m f s e cs
    else mk k nm m f s e cs

/-- The first named node of a list that is not a comment, looked through. -/
def firstNamedUnparen : List Node → Option Node
  | [] => none
  | c :: rest => if c.isPart then some (unparen c) else firstNamedUnparen rest
end

/-- Kinds whose elements are separated by commas: the elements after the first comma form
one run, so an error node placed after that comma lies one level deeper. -/
def commaListKinds : List String :=
  ["variable_declaration", "lexical_declaration", "arguments", "array", "object",
    "formal_parameters", "named_imports", "export_clause", "object_pattern", "array_pattern",
    "sequence_expression"]

/-- Kinds holding a run of statements, members or template parts: an error node placed after
the first of them lies inside the run. -/
def runKinds : List String :=
  ["program", "statement_block", "class_body", "switch_body", "template_string"]

/-- How much deeper than its parent's other children an error node at byte `a` lies, for a
parent of kind `kind` with children `cs`. -/
def runDepth (kind : String) (cs : List Node) (a : Nat) : Nat :=
  if commaListKinds.contains kind then
    if cs.any fun c => !c.named && c.kind == "," && c.stop ≤ a then 1 else 0
  else if runKinds.contains kind then
    if cs.any fun c => c.named && c.stop ≤ a then 1 else 0
  else 0

mutual
/-- The depth at which an error node over bytes `[a, b)` would be placed in the tree: below
the deepest node with children that covers it. -/
def errorDepth (a b : Nat) : Node → Nat
  | mk kind _ _ _ _ _ cs =>
    match errorDepthAmong a b cs with
    | some d => d + 1
    | none => runDepth kind cs a

/-- The depth below the child that covers bytes `[a, b)`, if one does. -/
def errorDepthAmong (a b : Nat) : List Node → Option Nat
  | [] => none
  | c :: rest =>
    match c with
    | mk _ _ _ _ s e (_ :: _) =>
      if s ≤ a && b ≤ e then some (errorDepth a b c) else errorDepthAmong a b rest
    | mk _ _ _ _ _ _ [] => errorDepthAmong a b rest
end

mutual
def occurs (k : String) (s e : Nat) : Node → Bool
  | mk kind _ _ _ start stop cs =>
    (kind == k && start == s && stop == e) || occursAmong k s e cs

/-- Whether a node of kind `k` over bytes `[s, e)` occurs in one of the trees. -/
def occursAmong (k : String) (s e : Nat) : List Node → Bool
  | [] => false
  | c :: rest => occurs k s e c || occursAmong k s e rest
end

mutual
/-- Whether a node of kind `k` over bytes `[s, e)` occurs below the root of the tree as a child
that `p` accepts, given the kind of its parent and its own field. -/
def occursUnder (p : String → Option String → Bool) (k : String) (s e : Nat) : Node → Bool
  | mk kind _ _ _ _ _ cs => occursUnderAmong p k s e kind cs

/-- Whether a node of kind `k` over bytes `[s, e)` occurs among the trees, which are children of
a node of kind `parent`, or below them, as a child that `p` accepts, given the kind of its
parent and its own field. -/
def occursUnderAmong (p : String → Option String → Bool) (k : String) (s e : Nat)
    (parent : String) : List Node → Bool
  | [] => false
  | c :: rest =>
    (c.kind == k && c.start == s && c.stop == e && p parent c.field) ||
      occursUnder p k s e c || occursUnderAmong p k s e parent rest
end

mutual
def leafOccurs (p : String → Bool) (s e : Nat) : Node → Bool
  | mk kind _ _ _ start stop cs =>
    (cs.isEmpty && start == s && stop == e && p kind) || leafOccursAmong p s e cs

/-- Whether a childless node over bytes `[s, e)` whose kind satisfies `p` occurs in one of the
trees. -/
def leafOccursAmong (p : String → Bool) (s e : Nat) : List Node → Bool
  | [] => false
  | c :: rest => leafOccurs p s e c || leafOccursAmong p s e rest
end

mutual
def size : Node → Nat
  | mk _ _ _ _ _ _ cs => 1 + sizeAmong cs

/-- Number of nodes in the trees. -/
def sizeAmong : List Node → Nat
  | [] => 0
  | c :: rest => size c + sizeAmong rest
end

theorem size_eq (n : Node) : n.size = 1 + sizeAmong n.children := by
  cases n
  rw [size]
  rfl

theorem sizeAmong_append (as bs : List Node) :
    sizeAmong (as ++ bs) = sizeAmong as + sizeAmong bs := by
  induction as with
  | nil => simp [sizeAmong]
  | cons a as ih => simp [sizeAmong, ih, Nat.add_assoc]

theorem sizeAmong_map_fst {α : Type} (cs : List Node) (a : α) :
    sizeAmong ((cs.map fun c => (c, a)).map (·.1)) = sizeAmong cs := by
  rw [List.map_map]
  exact congrArg sizeAmong (List.map_id' cs)

end Node

end PluginLens.Syntax
