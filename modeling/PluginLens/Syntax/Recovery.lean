import PluginLens.Syntax.Reading

/-!
# Error recovery

When reading fails, the text is repaired and read again, and the cheapest repair found wins.
There are three kinds of repair:

* a token the text lacks (a name, or one of `}`, `;`, `)`, `:`, `]`) is assumed where reading
  stopped;
* finished pieces at the top of the reading stack, and possibly the tokens after the failure,
  are read as one error node, so that reading resumes at the nearest point where the next
  token fits as it is, read with no construct in view (`readsAsMet`); an error node that
  starts right where an earlier one ends takes that one in;
* failing everything else, the whole text becomes one error node.

Costs follow a fixed scale: every error node costs 500, plus one per byte and 30 per line
break it covers and 100 per piece it swallows; an assumed token costs 610.

Recovery does not weigh every conceivable repair. It follows the candidates side by side, one
token per round, and gives some up on the way (`skipRivals`):

* the run of skipped tokens ends once a repair that is still reading costs less than an error
  node of the tokens skipped so far;
* a repair drops another one when it is cheaper by enough, weighed by how much it has read
  since its own failure (`Rival.beats`);
* a repair whose reading fails again goes on to its own recovery only if it ranks first in
  that round: no repair is still reading, the run of skipped tokens costs more, and no repair
  failing at the same token is cheaper (`cull`).

Among the repairs left, a repair is searched for each failure in turn, and the total over
all failures decides; among repairs of equal total cost the one whose error node lies less
deep wins, and then the one found last. Every reading of the text spends fuel, so that even a
text with many faults is repaired in bounded time.
-/

namespace PluginLens.Syntax

open PluginLens.Text

/-- Whether the node of a frame could be finished where it stands. -/
def Frame.complete (f : Frame) : Bool :=
  let n := f.children.size
  let last := (f.children.back?.map (·.kind)).getD ""
  let lastNamed := (f.children.back?.map (·.named)).getD false
  let lastField := f.children.back?.bind (·.field)
  match f.kind with
  | "binary_expression" | "assignment_expression" | "augmented_assignment_expression"
  | "member_expression" | "pair" | "pair_pattern" | "assignment_pattern"
  | "object_assignment_pattern" => n ≥ 3
  | "unary_expression" | "update_expression" | "await_expression" | "spread_element"
  | "rest_pattern" | "new_expression" | "class_heritage" | "else_clause" | "decorator" => n ≥ 2
  | "ternary_expression" => n ≥ 5
  | "yield_expression" | "variable_declarator" | "field_definition" => lastNamed || n == 1
  | "call_expression" => last == "arguments" || last == "template_string"
  | "arrow_function" => last == "statement_block" || (n ≥ 3 && last != "=>")
  | "function_expression" | "function_declaration" | "generator_function"
  | "generator_function_declaration" | "method_definition" | "class_static_block"
  | "catch_clause" | "finally_clause" => last == "statement_block"
  | "class" | "class_declaration" => last == "class_body"
  | "sequence_expression" => n ≥ 3 && lastNamed
  | "if_statement" => lastField == some "consequence" || lastField == some "alternative"
  | "while_statement" | "for_statement" | "for_in_statement" | "with_statement"
  | "labeled_statement" => lastField == some "body"
  | "try_statement" =>
    last == "statement_block" || last == "catch_clause" || last == "finally_clause"
  | "parenthesized_expression" | "arguments" | "formal_parameters" | "computed_property_name" =>
    last == ")" || last == "]"
  | "array" | "array_pattern" | "subscript_expression" => last == "]"
  | "object" | "object_pattern" | "statement_block" | "class_body" | "switch_body"
  | "template_substitution" | "named_imports" | "export_clause" => last == "\x7d"
  | "template_string" => last == "`" && n ≥ 2
  | "string" => n ≥ 2 && (last == "\"" || last == "'")
  | "regex" => n ≥ 3
  | "jsx_element" => last == "jsx_closing_element"
  | "jsx_opening_element" | "jsx_closing_element" => last == ">"
  | "jsx_self_closing_element" => last == "/>"
  | "jsx_expression" => last == "\x7d"
  | _ => false

def Frame.node (f : Frame) : Node :=
  .mk f.kind f.named false f.field (f.start.getD f.stop) f.stop f.children.toList

/-- Folds the innermost frame into its parent, if it could be finished. -/
def foldTop : List Frame → Option (List Frame)
  | f :: g :: rest =>
    if f.complete then some ({ g with children := g.children.push f.node } :: rest) else none
  | _ => none

/-- The reading stacks a failure leaves: the frames as they are, then with ever more
innermost frames folded, as far as they could be finished. -/
def stackViews (frames : List Frame) : List (List Frame) :=
  go frames.length frames
where
  go : Nat → List Frame → List (List Frame)
    | 0, fs => [fs]
    | n + 1, fs =>
      match foldTop fs with
      | some fs' => fs :: go n fs'
      | none => [fs]

def stackPieces (frames : List Frame) : List Node :=
  frames.reverse.flatMap (·.children.toList)

/-- A finished piece on the reading stack: the node, the kind of the frame that holds it and
its place among that frame's children. -/
structure Piece where
  node : Node
  frame : String
  index : Nat

/-- The last `n` finished pieces of a stack, top first. -/
def topPieces (frames : List Frame) (n : Nat) : List Piece :=
  go frames n
where
  go : List Frame → Nat → List Piece
    | [], _ => []
    | _, 0 => []
    | f :: fs, n =>
      let here := (f.children.toList.zipIdx.reverse.take n).map fun (c, i) =>
        { node := c, frame := f.kind, index := i }
      here ++ go fs (n - here.length)

/-- Whether popping the pieces down to `p` leaves a stack that reads nothing more: the name
of an import specifier followed by `as` is read as a name that only `as` may follow. -/
def committedBy (p : Piece) : Bool :=
  p.node.kind == "as" && p.frame == "import_specifier"

/-- Whether no reading resumes with the piece `p` left on top: the keyword `from` of an import
or export is read together with the source string after it as one piece, as soon as the string
is read. -/
def groupedWithNext (p : Piece) : Bool :=
  p.node.kind == "from" && (p.frame == "import_statement" || p.frame == "export_statement")

/-- Whether the piece `p` is the left operand of an operator that has been read: reading took it
as an expression then, so it stays one when reading resumes right after it. -/
def takenAsOperand (p : Piece) : Bool :=
  p.index == 0 &&
    ["binary_expression", "ternary_expression", "sequence_expression"].contains p.frame

def errorCost (src : Source) (a b pieces : Nat) : Nat :=
  500 + (b - a) + 30 * src.breaksIn a b + 100 * pieces

def assumedCost : Nat := 610

/-- A point to resume reading at: the character where the popped pieces start, the byte
range they cover, how many pieces they are, the piece left on top below them, and whether
that piece was taken as an operand (`takenAsOperand`). -/
structure Resumption where
  start : Nat
  firstByte : Nat
  lastByte : Nat
  pieces : Nat
  below : Option Node := none
  operand : Bool := false
  deriving Inhabited

/-- The points to resume at after a failure, nearest first: popping `d` pieces for
`d = 1, 2, …, 16`, on each view of the stack. -/
def resumptions (src : Source) (frames : List Frame) (failByte : Nat) : List Resumption :=
  let views := (stackViews frames).map fun fs => topPieces fs 17
  let byDepth := (List.range 16).flatMap fun d =>
    views.filterMap fun top =>
      let popped := top.take (d + 1)
      if popped.length < d + 1 || (popped.getLast?.map committedBy).getD false ||
          ((top.drop (d + 1)).head?.map groupedWithNext).getD false then none
      else
        let below := (top.drop (d + 1)).head?
        let popped := popped.map (·.node)
        let first := popped.getLast?.map (·.start) |>.getD failByte
        let last := popped.head?.map (·.stop) |>.getD failByte
        if first == failByte then none
        else (src.indexOfByte? first).map fun i =>
          { start := i, firstByte := first, lastByte := last, pieces := d + 1,
            below := below.map (·.node), operand := (below.map takenAsOperand).getD false }
  byDepth.foldl (fun acc r => if acc.any (·.start == r.start) then acc else acc ++ [r]) []

/-- The repairs with the characters `[a, b)` read as an error node; repairs inside it are
dropped, since the node swallows them. -/
def Repairs.skipping (r : Repairs) (a b : Nat) : Repairs :=
  { skipped := (r.skipped.filter fun (x, y) => y ≤ a || b ≤ x) ++ [(a, b)]
    assumed := r.assumed.filter fun x => x.pos < a || b ≤ x.pos
    names := r.names.filter fun x => x < a || b ≤ x
    lenient := r.lenient.filter fun x => x < a || b ≤ x }

/-- The repairs with the word at `t` read as a plain name, when `t` is a word: a word where
no keyword it spells fits is met as a name. -/
def Repairs.naming (r : Repairs) (t : Tok) : Repairs :=
  if t.kind == .word && !t.assumed && !r.names.contains t.start then
    { r with names := r.names ++ [t.start] }
  else r

def Repairs.assuming (r : Repairs) (x : Assumption) : Repairs :=
  { r with assumed := r.assumed ++ [x] }

mutual
/-- The last token of a node, with the kind of the node that holds it (`parent` for the node
itself when it is a token). -/
def Node.lastLeaf (parent : String) : Node → Node × String
  | n@(.mk kind _ _ _ _ _ cs) => Node.lastLeafAmong parent kind n cs

/-- The last token among the children `cs` of the node `here` of kind `kind`, held by a node
of kind `parent`. -/
def Node.lastLeafAmong (parent kind : String) (here : Node) : List Node → Node × String
  | [] => (here, parent)
  | [c] => Node.lastLeaf kind c
  | _ :: rest => Node.lastLeafAmong parent kind here rest
end

/-- Whether a token, held by a node of kind `parent`, ends an operand in every construct it
may end: after it any token that may follow an expression is taken in, a closing brace
included. -/
def endsOperand (leaf : Node) (parent : String) : Bool :=
  match leaf.kind with
  | "]" => parent == "subscript_expression" || parent == "array"
  | ")" => parent == "arguments" || parent == "parenthesized_expression"
  | "property_identifier" => parent == "member_expression"
  | "number" | "this" | "super" | "true" | "false" | "null" | "undefined" => true
  | "identifier" =>
    ["expression_statement", "return_statement", "throw_statement", "binary_expression",
      "await_expression", "unary_expression", "spread_element", "arguments", "array",
      "parenthesized_expression", "template_substitution", "pair", "ternary_expression",
      "sequence_expression"].contains parent
  | _ => false

/-- Whether a token cannot follow an expression anywhere, so that it finds the reading stack
as the last token left it: a name that is no operator word, a number or a string. -/
def followsNoOperand (t : Tok) : Bool :=
  (t.kind == .word && !(["in", "instanceof", "of"].contains t.text)) || t.kind == .number ||
    t.isQuote

/-- Whether a point to resume at right where reading failed lets a statement end before a
closing brace after the skipped text: the last token read ends an operand and the token that
failed left the reading stack as that token left it. -/
def lenientAt (f : Failure) : Bool :=
  match topPieces f.state.frames 1 with
  | [p] =>
    let (leaf, parent) := p.node.lastLeaf p.frame
    followsNoOperand f.tok && endsOperand leaf parent
  | _ => false

def Tok.isErrorPiece (t : Tok) : Bool := t.kind == .badChar && !t.isQuote

/-- End of the error piece that begins with the unreadable token `t`. At a backslash that
begins no escape the lexer gives up only after taking in what could still begin one: `\x`
with at most one hexadecimal digit, `\u` with at most three, or `\u{` with the hexadecimal
digits after it. -/
def errorPieceEnd (src : Source) (t : Tok) : Nat :=
  let i := t.start
  let c := src.charAt (i + 1)
  if src.charAt i != '\\' || src.atEnd (i + 1) then t.stop
  else if c == 'x' then
    if isHex (src.charAt (i + 2)) && !src.atEnd (i + 2) then i + 3 else i + 2
  else if c == 'u' then
    if src.charAt (i + 2) == '\x7b' && !src.atEnd (i + 2) then skipWhile src isHex (i + 3)
    else min (skipWhile src isHex (i + 2)) (i + 5)
  else t.stop

/-- The token at `t` as read when no construct is expected: a `#!` line anywhere, and
characters that begin no token, together with blanks between them, as one error piece. -/
def errorModeToken (env : Env) (t : Tok) : Tok :=
  let src := env.src
  if !t.isErrorPiece then t
  else if src.charAt t.start == '#' && src.charAt (t.start + 1) == '!' then
    { kind := .hashBang, text := "#!", start := t.start,
      stop := skipWhile src (fun c => c != '\n') t.start }
  else { t with stop := extend (src.size + 1) (errorPieceEnd src t) }
where
  extend : Nat → Nat → Nat
    | 0, j => j
    | n + 1, j =>
      let k := skipWhile env.src isSyntaxBlank j
      let u := (scanToken env env.repairs.assumed.length 0 {} j).2
      if u.start == k && u.isErrorPiece &&
          !(env.src.charAt k == '#' && env.src.charAt (k + 1) == '!') then
        extend n (errorPieceEnd env.src u)
      else j

/-- The tokens from `t` on, up to the end of the text, read with no context. -/
def tokensFrom (env : Env) (t : Tok) : List Tok :=
  go (env.src.size + 2) (errorModeToken env t) []
where
  go : Nat → Tok → List Tok → List Tok
    | 0, u, acc => (u :: acc).reverse
    | n + 1, u, acc =>
      if u.kind == .eof then (u :: acc).reverse
      else go n (errorModeToken env (scanToken env env.repairs.assumed.length 0 {} u.stop).2)
        (u :: acc)

/-- Frame kinds of statements, which an assumed `;` may end at the end of the text. -/
def statementKinds : List String :=
  ["expression_statement", "variable_declaration", "lexical_declaration", "return_statement",
    "throw_statement", "break_statement", "continue_statement", "debugger_statement",
    "import_statement", "export_statement", "empty_statement", "do_statement"]

/-- Whether an assumed token may end the text where it stands, judged by the frame that took
it: a block, class body or switch body closed by `}`, the condition of a `do` loop closed
by `)`, or a statement ended by `;`. -/
def endsText (tr : AssumedTrace) (token : String) : Bool :=
  (token == "\x7d" && ["statement_block", "class_body", "switch_body"].contains tr.frameKind)
    || (token == ")" && tr.frameKind == "parenthesized_expression"
      && tr.parentKind == "do_statement")
    || (token == ";" && statementKinds.contains tr.frameKind)

/-- Whether reading under the repaired text got past the token `t` it failed at before. -/
def passes (res : Except Failure Reading) (t : Tok) : Bool :=
  match res with
  | .ok _ => true
  | .error f => t.kind != .eof && f.tok.start > t.start

/-- Kinds of tokens that only the text of a literal or an element holds. Error recovery never
meets them, since it reads the text after a failure with no construct in view. -/
def literalTextKinds : List String :=
  ["string_fragment", "escape_sequence", "jsx_text", "regex_pattern", "regex_flags",
    "html_character_reference"]

/-- Words that recovery always meets as keywords: reserved words and the words of particular
constructs, but not the words that may also stand as names (`get`, `set`, `async`, `static`,
`export`, `let`). -/
def strictKeywords : List String :=
  ["break", "case", "catch", "class", "const", "continue", "debugger", "default", "delete", "do",
    "else", "extends", "finally", "for", "function", "if", "import", "in", "instanceof", "new",
    "return", "switch", "this", "throw", "try", "typeof", "var", "void", "while", "with", "of",
    "as", "from", "true", "false", "null", "undefined", "super", "target", "meta"]

/-- Whether reading under the repaired text read the token `t` as error recovery met it: as one
token over the same characters, not as part of the text of a literal or an element, and a
keyword as that keyword (`named` lets it be read as a name). A point to resume at is only taken
when the token that recovery holds fits there as it is. -/
def readsAsMet (src : Source) (res : Except Failure Reading) (t : Tok) (named : Bool) : Bool :=
  let s := src.byteAt t.start
  let e := src.byteAt t.stop
  let keyword := !named && t.kind == .word && strictKeywords.contains t.text
  let p (k : String) := !literalTextKinds.contains k && (!keyword || k == t.text)
  t.kind == .eof || match res with
  | .ok rd => rd.root.leafOccurs p s e
  | .error f => Node.leafOccursAmong p s e (stackPieces f.state.frames)

/-- The kinds a piece of kind `k` may take when it is read again: a name standing alone in an
object is the name token itself, so it may still become the key of a pair. -/
def keptKinds : String → List String
  | "shorthand_property_identifier" => ["shorthand_property_identifier", "property_identifier"]
  | k => [k]

/-- Whether reading under the repaired text kept the piece `n` as it was read before: what
was read before the skipped text stays read the same way. -/
def keeps (res : Except Failure Reading) (n : Node) : Bool :=
  (keptKinds n.kind).any fun k =>
    match res with
    | .ok rd => rd.root.occurs k n.start n.stop
    | .error f => Node.occursAmong k n.start n.stop (stackPieces f.state.frames)

/-- Whether a child filling `field` of a node of kind `parent` stands as a target or a pattern
rather than as an expression. -/
def patternPosition (parent : String) (field : Option String) : Bool :=
  match parent, field with
  | "assignment_expression", some "left" | "augmented_assignment_expression", some "left"
  | "for_in_statement", some "left" | "variable_declarator", some "name"
  | "arrow_function", some "parameter" | "catch_clause", some "parameter"
  | "pair_pattern", some "value" | "assignment_pattern", some "left"
  | "object_assignment_pattern", some "left" => true
  | "formal_parameters", _ | "rest_pattern", _ | "array_pattern", _ => true
  | _, _ => false

/-- Whether reading under the repaired text kept the operand `n` as an expression: it does not
stand there as a target or a pattern. -/
def keepsAsOperand (res : Except Failure Reading) (n : Node) : Bool :=
  match res with
  | .ok rd => !rd.root.occursUnder patternPosition n.kind n.start n.stop
  | .error f => !f.state.frames.any fun fr =>
      Node.occursUnderAmong patternPosition n.kind n.start n.stop fr.kind fr.children.toList

/-- A repair of one failure, with its cost and the reading under it. -/
structure Candidate where
  repairs : Repairs
  cost : Nat
  /-- `none` when the whole text becomes one error node. -/
  result : Option (Except Failure Reading)

/-- How far reading under a candidate's repairs gets: the start of the token where it fails
again, past the end of the text when it reads to the end, and nothing for the whole text as
one error node. -/
def Candidate.readsTo (src : Source) (c : Candidate) : Nat :=
  match c.result with
  | some (.error f) => f.tok.start
  | some (.ok _) => src.size + 1
  | none => 0

/-- The token error recovery assumes at a failure, if one fits: tried in a fixed order, first
taken by the construct that was being read, then by any construct around it. Before a token
the assumed one must finish a construct and let that token be read; at the end of the text it
must end a block-like construct or a statement. Returned with the number of readings made. -/
def assumedCandidate (src : Source) (r : Repairs) (f : Failure) : Option Candidate × Nat :=
  if f.tok.isErrorPiece then (none, 0) else
  -- a closing bracket can only be taken by a construct that an opening one began
  let opened (o : List String) := f.state.frames.any fun fr => fr.children.any (o.contains ·.kind)
  let closers := [("\x7d", ["\x7b", "$\x7b"]), (")", ["("]), ("]", ["["]), (">", ["<", "</"]),
    ("/>", ["<"])]
  let useful (token : String) := ((closers.lookup token).map opened).getD true
  let tries := (["identifier", "\x7d", ";", ")", ":", "]", ">", "/>"].filter useful).map fun token =>
    let r' := r.assuming { pos := f.state.pos, count := f.state.shifts, token }
    let (res, tr) := Reading.runTraced src r'
    (token, r', res, tr)
  let fits (direct : Bool) (x : String × Repairs × Except Failure Reading × Option AssumedTrace) :
      Bool :=
    match x.2.2.2 with
    | none => false
    | some tr =>
      (!direct || tr.closesBefore == f.state.closes) &&
      (if f.tok.kind == .eof then endsText tr x.1
       else match tr.next with
         | some (c, start, kind) =>
           (c > tr.closesBefore || tr.folded) && start == f.tok.start && kind == f.tok.kind
         | none => false)
  let found := match tries.find? (fits true) <|> tries.find? (fits false) with
    | some (_, r', res, _) => some { repairs := r', cost := assumedCost, result := some res }
    | none => none
  (found, tries.length)

/-- A repair in the running against the others made at the same failure. Error recovery
follows all of them side by side, one token per round: the round is the index of the token
the repair resumes with (the assumed token's repair resumes with the failing token, round
`0`), `ends` the index of the token where reading under it fails again, and `nodes` the
number of tree nodes it has built since the failure when made. -/
structure Rival where
  cand : Candidate
  round : Nat
  ends : Nat
  nodes : Nat

/-- The nodes a rival has built by the end of round `r`: those it was made with and about two
for each token read since. -/
def Rival.nodesAt (v : Rival) (r : Nat) : Nat := v.nodes + 2 * (r + 1 - v.round)

def Rival.alive (v : Rival) (r : Nat) : Bool := v.round ≤ r && r < v.ends

/-- Whether `a` drives `b` out in round `r`: `a` is cheaper, and the difference weighed by the
nodes `a` has built since its own failure passes the limit of 1800. -/
def Rival.beats (a b : Rival) (r : Nat) : Bool :=
  a.cand.cost < b.cand.cost && (b.cand.cost - a.cand.cost) * (1 + a.nodesAt r) > 1800

/-- The rivals left after round `r` among those reading in it: a rival that is reading in
that round is dropped when another one reading in it drives it out. -/
def cullBeaten (vs : List Rival) (r : Nat) : List Rival :=
  vs.filter fun b => !(b.alive r && vs.any fun a => a.alive r && a.beats b r)

/-- Whether a rival that fails at token `k`, with every token before it read, ends the run of
skipped tokens that costs `skip` once token `k` is skipped: the run meets the rival still
reading, and the rival is cheaper by a difference that, weighed by the nodes it has built, passes
the limit of 1800. -/
def Rival.stopsRun (v : Rival) (k skip : Nat) : Bool :=
  v.round < k && v.ends == k && v.cand.cost < skip &&
    (skip - v.cand.cost) * (1 + v.nodesAt (k - 1)) > 1800

/-- Whether a rival, as recovery meets token `k` of the run of skipped tokens, is far enough
ahead to stop it from resuming at a point it reckons to cost `reckoned`: the rival is still
reading where the run stands (one made at the failing token from the third token of the run on,
a later one once it has read a token of its own), is cheaper, and the difference weighed by the
nodes it has built passes the limit of 1800. -/
def Rival.outweighs (v : Rival) (k reckoned : Nat) : Bool :=
  let seen := if v.round == 0 then 2 ≤ k else v.round < k
  seen && k < v.ends && v.cand.cost < reckoned &&
    (reckoned - v.cand.cost) * (1 + v.nodesAt k) > 1800

/-- Whether reading under a rival's repairs fails again. -/
def Rival.fails (v : Rival) : Bool :=
  match v.cand.result with
  | some (.error _) => true
  | _ => false

/-- The rivals left after round `r`, in which the run of skipped tokens goes on at cost `skip`
if it goes on, and which reads the end of the text when `last` holds. The rivals reading in
that round compete (`cullBeaten`). Of those whose reading fails in it, only one may go on to
its own error recovery, and only if it ranks first among all: no rival is still reading
(at the end of the text those that read it are done and rank with none), the run of skipped
tokens costs more than it with its failure (100 more than it), and it is the cheapest of
them, the one made first among equals. -/
def cull (vs : List Rival) (r : Nat) (skip : Option Nat) (last : Bool) : List Rival :=
  let vs := cullBeaten vs r
  let failing := vs.zipIdx.filter fun (v, _) => v.fails && v.ends == r
  let least := (failing.map (·.1.cand.cost)).min?
  let first := (failing.find? (some ·.1.cand.cost == least)).map (·.2)
  let reading := !last && vs.any (·.alive r)
  (vs.zipIdx.filter fun (b, i) =>
    !(b.fails && b.ends == r) ||
      ((some i == first || some b.cand.cost == least) && !reading &&
        skip.all (b.cand.cost + 100 < ·))).map (·.1)

/-- The rivals left once every round from `r` on has been played, up to `r + fuel`, with the
run of skipped tokens over; round `n - 1` reads the end of the text. -/
def cullFrom (vs : List Rival) (n : Nat) : Nat → Nat → List Rival
  | 0, _ => vs
  | fuel + 1, r => cullFrom (cull vs r none (r + 1 == n)) n fuel (r + 1)

/-- The index of the first token of `toks` that does not start before `i`, or the number of
tokens when there is none. -/
def roundOf (toks : List Tok) (i : Nat) : Nat :=
  (toks.findIdx? (i ≤ ·.start)).getD toks.length

/-- The repairs that read pieces and tokens as an error node, in the order error recovery meets
them, that stay in the running. For the failing token and each later one in turn, recovery
tries the nearest point where that token fits, and the run of skipped tokens goes on. The run
stops once a repair that is still reading costs less than the skipped tokens as an error node,
or one that fails at this very token outweighs them (`Rival.stopsRun`), or when that node would
cost more than `budget`; at the end of the text the whole text is one error node. Meanwhile the repairs
made so far compete round by round (`cull`), and so do they after the run, starting with
`assumed`, the repair by an assumed token, if there is one. -/
def skipRivals (src : Source) (r : Repairs) (f : Failure) (budget : Nat)
    (assumed : Option Candidate) (fuel : Nat) : List Candidate × Nat :=
  let env : Env := { src, repairs := r }
  let failByte := src.byteAt f.state.pos
  let points := resumptions src f.state.frames failByte
  let toks := tokensFrom env f.tok
  let allPieces := stackPieces f.state.frames
  let firstByte := (allPieces.head?.map (·.start)).getD (src.byteAt f.tok.start)
  let rival (c : Candidate) (k nodes : Nat) : Rival :=
    { cand := c, round := k, nodes,
      ends := roundOf toks (c.readsTo src) }
  let sinceRepair := r.skipped.foldl (fun m (_, b) => max m (src.byteAt b)) 0
  let start : List Rival := assumed.toList.map fun c =>
    rival c 0 (Node.sizeAmong (allPieces.filter (sinceRepair ≤ ·.start)))
  -- `last` is the last token skipped so far and `skippedPieces` the pieces among them
  let rec walk : List Tok → Nat → Option Tok → Nat → List Rival → List Candidate → Nat →
      List Rival × List Candidate × Nat × Nat
    | [], k, _, _, vs, whole, fuel => (vs, whole, k, fuel)
    | t :: rest, k, last, skippedPieces, vs, whole, fuel =>
      let lastTokByte := last.map fun u => src.byteAt u.stop
      let here := (if k == 0 then points else
          { start := f.tok.start, firstByte := src.byteAt f.tok.start,
            lastByte := src.byteAt f.tok.start, pieces := 0 } :: points)
      let here := if t.isErrorPiece then [] else here
      -- each point is tried by reading the whole text once more; a start tried before for
      -- this token is read again only to check the piece left below
      let rec find : List Resumption → List ((Nat × Nat) × Except Failure Reading) → Nat →
          Option Rival × Nat
        | [], _, fuel => (none, fuel)
        | p :: ps, tried, fuel =>
          let a := if p.pieces == 0 then f.tok.start else p.start
          let bByte := lastTokByte.getD p.lastByte
          let b := if k == 0 then (src.indexOfByte? p.lastByte).getD f.state.pos
                   else (last.map (·.stop)).getD f.tok.start
          -- an error node that ends right where this one starts takes it in
          let merged := r.skipped.find? fun (_, y) => y ≤ a && skipWhile src isSyntaxBlank y == a
          let cost := match merged with
            | some (_, y) =>
              let yByte := src.byteAt y
              bByte - yByte + 30 * src.breaksIn yByte bByte + 100 * (p.pieces + skippedPieces)
            | none => errorCost src p.firstByte bByte (p.pieces + skippedPieces)
          -- what recovery reckons this resumption costs, before reading on: the tokens skipped
          -- so far, each popped piece, and every byte from the piece left below
          let firstByte := if p.pieces == 0 then failByte else p.firstByte
          let reckoned :=
            if k == 0 then cost + 100
            else errorCost src (src.byteAt f.tok.start) bByte skippedPieces +
              100 * (p.pieces + 1) + (bByte - firstByte) + 30 * src.breaksIn firstByte bByte
          if cost > budget || fuel == 0 || vs.any (·.outweighs k reckoned) then (none, fuel)
          else
            let r' := r.skipping ((merged.map (·.1)).getD a) b
            -- the token recovery holds at first was read where it failed, as a name
            let r' := if k == 0 then r'.naming f.tok else r'
            let r' := if p.pieces == 0 && lenientAt f then { r' with lenient := r'.lenient ++ [a] }
              else r'
            let (res, fuel) := match tried.lookup (a, b) with
              | some res => (res, fuel)
              | none => (Reading.run src r', fuel - 1)
            if passes res t && readsAsMet src res t (k == 0) && (p.below.map (keeps res)).getD true &&
                (!p.operand || (p.below.map (keepsAsOperand res)).getD true) then
              let popped := (allPieces.reverse.take p.pieces)
              (some (rival { repairs := r', cost, result := some res } k
                (1 + Node.sizeAmong popped + skippedPieces)), fuel)
            else find ps (((a, b), res) :: tried) fuel
      let (found, fuel) := find here [] fuel
      let vs := cullBeaten (vs ++ found.toList) k
      let whole :=
        if t.kind == .eof then
          let lastByte := lastTokByte.getD failByte
          [{ repairs := r, result := none,
             cost := errorCost src firstByte lastByte (allPieces.length + skippedPieces) }]
        else whole
      -- a repair that is still reading costs less than the tokens skipped so far as an error
      -- node, or one about to fail at this token outweighs them: the run is given up
      let piecesThen := skippedPieces + (if t.isErrorPiece then 0 else 1)
      let skipCost := errorCost src (src.byteAt f.tok.start) (src.byteAt t.stop) piecesThen
      -- at the end of the text the run of skipped tokens is over
      let last := t.kind == .eof
      let skipping := if last then none else some skipCost
      if vs.any (fun v => (v.alive k && v.cand.cost < skipCost) || v.stopsRun k skipCost) then
        (cull vs k none last, whole, k + 1, fuel)
      else if errorCost src failByte failByte piecesThen > budget || fuel == 0 then
        (cull vs k skipping last, whole, k + 1, fuel)
      else walk rest (k + 1) (some t) piecesThen (cull vs k skipping last) whole fuel
  let (vs, whole, next, fuel) := walk toks 0 none 0 start [] fuel
  ((cullFrom vs toks.length (toks.length + 1) next).map (·.cand) ++ whole, fuel)

/-- The result of reading with recovery: the repairs chosen, their total cost, and the final
reading, or `none` when the whole text is one error node. -/
structure Recovered where
  repairs : Repairs
  cost : Nat
  reading : Option Reading
  deriving Inhabited

def Candidate.ownSkip (c : Candidate) (r : Repairs) : Option (Nat × Nat) :=
  if c.result.isNone || c.repairs.assumed.length > r.assumed.length then none
  else c.repairs.skipped.getLast?

def ownDepth (src : Source) (rec : Recovered) (own : Option (Nat × Nat)) : Option Nat :=
  own.bind fun (a, b) => rec.reading.map fun rd => rd.root.errorDepth (src.byteAt a) (src.byteAt b)

/-- Whether a candidate of equal total cost replaces the one found before: the one whose error
node lies less deep wins, and at equal depth the one found later. -/
def replacesTie (newer older : Option Nat) : Bool :=
  match newer, older with
  | some d, some e => d ≤ e
  | _, _ => true

/-- Repairs found for one failure: the place of their first candidate in meeting order, the
repairs with their total cost, and the depth of the candidate's own error node. -/
structure Settled where
  index : Nat
  found : Recovered
  depth : Option Nat

/-- The repairs chosen among those found: the cheapest, and among equally cheap ones, taken in
meeting order, each replaces the one before when `replacesTie` says so. -/
def Settled.choose (ss : List Settled) : Option Recovered :=
  match (ss.map (·.found.cost)).min? with
  | none => none
  | some least =>
    let ties := (ss.filter (·.found.cost == least)).mergeSort fun a b => a.index ≤ b.index
    (ties.foldl (fun (best : Option Settled) s => match best with
        | some b => if replacesTie s.depth b.depth then some s else best
        | none => some s) none).map (·.found)

/-- The cheapest repairs of total cost at most `budget` for the failures met from `res` on,
repairing at most `depth` more failures; `none` when there are none. Equal costs are settled
by `Settled.choose`. A candidate costing more than the cheapest repairs found so far cannot
win, and the rest of one is looked for only within what is left of that bound. Every reading
of the text spends one unit of `fuel`; what is left is returned, and once it is spent the
repairs found so far stand. -/
def searchRepairs (src : Source) : Nat → Nat → Nat → Repairs → Except Failure Reading →
    Option Recovered × Nat
  | _, _, fuel, r, .ok rd => (some { repairs := r, cost := 0, reading := some rd }, fuel)
  | 0, _, fuel, _, .error _ => (none, fuel)
  | depth + 1, budget, fuel, r, .error f =>
    let (assumed, readings) := assumedCandidate src r f
    let (cands, fuel) := skipRivals src r f budget assumed (fuel - readings)
    let follow (acc : Nat × List Settled × Nat) (ci : Candidate × Nat) :
        Nat × List Settled × Nat :=
      let (limit, settled, fuel) := acc
      let (c, index) := ci
      if c.cost > limit || fuel == 0 then acc
      else
        let (rest, fuel) := match c.result with
          | some res => searchRepairs src depth (limit - c.cost) fuel c.repairs res
          | none => (some { repairs := c.repairs, cost := 0, reading := none }, fuel)
        match rest with
        | none => (limit, settled, fuel)
        | some rest =>
          let found := { rest with cost := c.cost + rest.cost }
          (min limit found.cost,
            { index, found, depth := ownDepth src found (c.ownSkip r) } :: settled, fuel)
    let (_, settled, fuel) := cands.zipIdx.foldl follow (budget, [], fuel)
    (Settled.choose settled, fuel)

end PluginLens.Syntax
