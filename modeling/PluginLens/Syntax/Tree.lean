import PluginLens.Syntax.Recovery

/-!
# Syntax trees

A read text: its root node, with error nodes placed where recovery skipped text and assumed
tokens marked as missing, and its comments in document order. The comments are read off the
tree as tree-sitter keeps it, with each comment a leaf of the node around it, by a walk with an
explicit stack. When recovery could do no
better than give up, the root itself is one error node over the whole text.
-/

namespace PluginLens.Syntax

open PluginLens.Text

/-- Kind of a comment. -/
inductive CommentKind where
  | line
  | block
  deriving DecidableEq, Inhabited, Repr

/-- A comment: its kind, the text between its delimiters, and its byte span. -/
structure Comment where
  kind : CommentKind
  text : String
  start : Nat
  stop : Nat
  deriving Inhabited, Repr

namespace Comment

/-- The comment over bytes `[a, b)`: a line comment loses its `//`, a block comment its `/*`
and `*/`. -/
def ofSpan (src : Source) (a b : Nat) : Comment :=
  let raw := src.slice a b
  if raw.startsWith "//" then { kind := .line, text := (raw.drop 2).toString, start := a, stop := b }
  else
    let inner := if raw.startsWith "/*" then (raw.drop 2).toString else raw
    let inner := if inner.endsWith "*/" then (inner.dropEnd 2).toString else inner
    { kind := .block, text := inner, start := a, stop := b }

/-- A documentation block: a block comment whose text starts with one `*` but not two, so
`/***/` is one and `/**/` is not. -/
def isDocBlock (c : Comment) : Bool :=
  c.kind == .block && c.text.startsWith "*" && !c.text.startsWith "**"

end Comment

namespace Node

mutual
/-- Places the error node `e` inside `n`, in the deepest node with children that covers it. -/
def placeIn (n : Node) (e : Node) : Node :=
  match n with
  | .mk kind named missing field start stop children =>
    .mk kind named missing field start stop (placeAmong children e)

/-- Places `e` among sibling nodes in source order, inside one of them if it covers `e`. -/
def placeAmong : List Node → Node → List Node
  | [], e => [e]
  | c :: rest, e =>
    match c with
    | .mk _ _ _ _ start stop (_ :: _) =>
      if start ≤ e.start && e.stop ≤ stop then placeIn c e :: rest
      else if e.stop ≤ start then e :: c :: rest
      else c :: placeAmong rest e
    | .mk _ _ _ _ start _ [] =>
      if e.stop ≤ start then e :: c :: rest else c :: placeAmong rest e
end

theorem sizeAmong_filter_le (p : Node → Bool) : ∀ ns : List Node, sizeAmong (ns.filter p) ≤ sizeAmong ns
  | [] => Nat.le_refl _
  | n :: ns => by
    have := sizeAmong_filter_le p ns
    by_cases h : p n = true
    · simp only [List.filter_cons_of_pos h, sizeAmong]
      omega
    · simp only [List.filter_cons_of_neg h, sizeAmong]
      omega

/-- The comment nodes met by a walk of a tree with an explicit stack of pending nodes, the next
one first: a comment is taken and not entered, and any other node is replaced by its named
children, the first of them on top. -/
def commentWalk : List Node → List Node
  | [] => []
  | n :: rest =>
    if n.kind == "comment" then n :: commentWalk rest
    else commentWalk (n.namedChildren ++ rest)
termination_by stack => sizeAmong stack
decreasing_by
  · simp only [sizeAmong, size_eq]
    omega
  · -- the popped node is replaced by some of its children, which are smaller by the node itself
    have := sizeAmong_filter_le (·.named) n.children
    simp only [namedChildren, sizeAmong_append, sizeAmong, size_eq] at this ⊢
    omega

def commentNode (a b : Nat) : Node := .mk "comment" true false none a b []

/-- The tree with its comments as leaves, each placed in the deepest node with children that
covers it, among its siblings in source order. -/
def withComments (root : Node) (spans : List (Nat × Nat)) : Node :=
  spans.foldl (fun t (a, b) => t.placeIn (commentNode a b)) root

end Node

def commentsOf (src : Source) (root : Node) : List Comment :=
  (Node.commentWalk [root]).map fun n => Comment.ofSpan src n.start n.stop

def errorNode (a b : Nat) : Node := .mk "ERROR" true false none a b []

/-- The outcome of reading a text with recovery: the root node and the comments. -/
structure ParsedText where
  root : Node
  comments : List Comment
  deriving Inhabited

/-- How many readings of the text the search for repairs may spend: about half a million
characters read in all, and at least fifty readings. -/
def readingFuel (src : Source) : Nat := max 50 (500000 / (src.size + 1))

/-- Reads a text into a tree, repairing syntax errors as cheaply as recovery finds. -/
def ParsedText.ofSource (src : Source) : ParsedText :=
  let first := Reading.run src {}
  let found := (searchRepairs src 10 1000000000 (readingFuel src) {} first).1
  match found, found.bind (·.reading) with
  | some found, some rd =>
    let errors := found.repairs.skipped.map fun (a, b) => errorNode (src.byteAt a) (src.byteAt b)
    let root := errors.foldl Node.placeIn rd.root
    { root, comments := commentsOf src (root.withComments rd.comments) }
  | _, _ =>
    let a := skipWhile src isSyntaxBlank 0
    let b := lastNonBlank src.size src.size
    { root := errorNode (src.byteAt a) (src.byteAt (max a b)), comments := [] }
where
  /-- The index after the last character that is not blank, looking below `i`. -/
  lastNonBlank : Nat → Nat → Nat
    | 0, _ => 0
    | fuel + 1, i =>
      if i == 0 then 0
      else if isSyntaxBlank (src.charAt (i - 1)) then lastNonBlank fuel (i - 1) else i

end PluginLens.Syntax
