import PluginLens.Syntax.Lexer
import PluginLens.Syntax.Semicolon
import PluginLens.Syntax.Node

/-!
# The reading state of the parser

The parser builds the tree bottom-up in a stack of open frames, one per node still being
read; finished children wait in their parent's frame. When reading fails, this stack is
exactly what error recovery needs: the finished pieces on top of it are what an error node
may swallow.

Tokens are read on demand, because which token comes next depends on what the parser
expects (see `Want`). Between tokens the reader passes blanks, comments (kept in the state)
and stretches of text that error recovery has declared skipped; at the place where error
recovery assumes a missing token, that token is read instead.
-/

namespace PluginLens.Syntax

open PluginLens.Text

/-- A token that error recovery assumes where the text lacks it: at character `pos`, as the
token read after `count` tokens. -/
structure Assumption where
  pos : Nat
  count : Nat
  token : String
  deriving Inhabited, Repr, BEq

/-- Repairs of a text chosen by error recovery: character ranges read as skipped error text,
assumed tokens, the starts of words read as plain names whatever keyword they spell, and the
starts of skipped ranges after which a statement may end right before a closing brace.
The first two lists are sorted by position. -/
structure Repairs where
  skipped : List (Nat × Nat) := []
  assumed : List Assumption := []
  names : List Nat := []
  lenient : List Nat := []
  deriving Inhabited, Repr, BEq

/-- How the next token is to be read. -/
structure Want where
  /-- An operand may start: `/` opens a regular expression. -/
  operand : Bool := false
  /-- Compound assignment operators may be read. -/
  assign : Bool := false
  /-- A semicolon may be inferred; the value is the rule for same-line comments. -/
  semicolon : Option Bool := none
  /-- The statement read so far is a lone name right after a `{` in statement position, so
  that a `}` after skipped text may end it: such a `{` may also open an object, where the name
  is a shorthand property. -/
  shorthandBefore : Bool := false
  /-- A conditional may go on: a lone `?` is its operator. Elsewhere, and when no construct is
  in view, a lone `?` begins no token. -/
  condition : Bool := false
  deriving Inhabited, BEq

/-- Classes of tokens. -/
inductive TokKind where
  | word
  | privateName
  | number
  | punct
  | hashBang
  | badChar
  | eof
  | inferredSemicolon
  deriving DecidableEq, Inhabited, Repr

/-- A token with its character range; an assumed token is a punctuator that error recovery
supplies where the text lacks it. -/
structure Tok where
  kind : TokKind
  text : String
  start : Nat
  stop : Nat
  assumed : Bool := false
  deriving Inhabited, Repr

/-- A node still being read. -/
structure Frame where
  kind : String
  named : Bool := true
  field : Option String := none
  start : Option Nat := none
  stop : Nat := 0
  children : Array Node := #[]
  deriving Inhabited

/-- What happened around the last assumed token read: how many frames had been closed before
it, the kinds of the frame that took it and of the frame around that one, whether it became
a node that is always folded into a larger one before the next token is read (a name used as
an operand, a pattern or a property name, but not the name of a declaration, a label or the
parameter of an arrow function), and, once read, the count of closed frames before the next
token with that token's start and class. -/
structure AssumedTrace where
  closesBefore : Nat
  frameKind : String
  parentKind : String
  folded : Bool := false
  next : Option (Nat × Nat × TokKind) := none
  deriving Inhabited

/-- What lies between two tokens. -/
inductive Gap where
  | comment (start stop : Nat)
  | skipped (start stop : Nat)
  | markup (start stop : Nat)

def Gap.stop : Gap → Nat
  | .comment _ e | .skipped _ e | .markup _ e => e

/-- The tokens already scanned at one reading position, by how they were wanted, so that
looking at the next token again costs nothing. -/
structure ScanMemo where
  pos : Nat := 0
  shifts : Nat := 0
  assumedRead : Nat := 0
  entries : List (Want × List Gap × Tok) := []
  deriving Inhabited

/-- Everything the parser has read so far. -/
structure ReadState where
  /-- Character index after the last token, comment or skipped text read. -/
  pos : Nat := 0
  frames : List Frame := [{ kind := "program" }]
  /-- Byte ranges of the comments read, in order. -/
  comments : Array (Nat × Nat) := #[]
  /-- How many assumed tokens have been read. -/
  assumedRead : Nat := 0
  /-- How many tokens have been read. -/
  shifts : Nat := 0
  /-- How many frames have been closed. -/
  closes : Nat := 0
  /-- What happened around the last assumed token. -/
  trace : Option AssumedTrace := none
  /-- The tokens scanned at the reading position. -/
  memo : ScanMemo := {}
  deriving Inhabited

/-- The fixed inputs of a reading. -/
structure Env where
  src : Source
  repairs : Repairs

/-- A failed reading: where it stopped and the token it could not take. -/
structure Failure where
  state : ReadState
  tok : Tok
  deriving Inhabited

abbrev Parse := ReaderT Env (StateT ReadState (Except Failure))

/-- End of a markup comment at `i`: `<!--` or `-->` and the rest of the line. -/
def markupCommentEnd? (src : Source) (i : Nat) : Option Nat :=
  if startsWithAt src i "<!--" || startsWithAt src i "-->" then
    some (skipWhile src (fun c => c != '\x00' && !isLineBreak c) i)
  else none

/-- The next token from index `i`, reading blanks, comments and skipped text before it; the
gaps passed are returned with it. -/
def scanToken (env : Env) (assumedRead shifts : Nat) (want : Want) (i : Nat) :
    List Gap × Tok :=
  let src := env.src
  -- a token assumed by recovery stands right at the end of the last token read
  match env.repairs.assumed.drop assumedRead with
  | a :: _ =>
    if a.pos == i && a.count == shifts then
      if a.token == "identifier" then
        ([], { kind := .word, text := "", start := i, stop := i, assumed := true })
      else ([], { kind := .punct, text := a.token, start := i, stop := i, assumed := true })
    else go src (src.size - i + 2) i [] want.semicolon
  | [] => go src (src.size - i + 2) i [] want.semicolon
where
  skippedAt (j : Nat) : Option Nat :=
    (env.repairs.skipped.find? (·.1 == j)).map (·.2)
  skippedAhead (j : Nat) : Bool :=
    env.repairs.skipped.any fun (a, _) => j ≤ a && a ≤ skipWhile env.src isSyntaxBlank j
  lexAt (src : Source) (k : Nat) : Tok :=
    if src.atEnd k then { kind := .eof, text := "", start := k, stop := k }
    else
      let c := src.charAt k
      if shifts == 0 && c == '#' && src.charAt (k + 1) == '!' then
        { kind := .hashBang, text := "#!", start := k,
          stop := skipWhile src (fun c => c != '\n') k }
      else match (if c.isDigit || (c == '.' && (src.charAt (k + 1)).isDigit) then
          numberEnd? src k else none) with
      | some e => { kind := .number, text := "", start := k, stop := e }
      | none =>
        match wordEnd? src k with
        | some e =>
          { kind := .word, text := if env.repairs.names.contains k then "" else src.charsBetween k e,
            start := k, stop := e }
        | none =>
          match privateNameEnd? src k with
          | some e => { kind := .privateName, text := "", start := k, stop := e }
          | none =>
            match punctuatorAt? src k want.assign with
            | some p =>
              if p == "?" && !want.condition then
                { kind := .badChar, text := p, start := k, stop := k + 1 }
              else { kind := .punct, text := p, start := k, stop := k + p.length }
            | none => { kind := .badChar, text := String.singleton c, start := k, stop := k + 1 }
  go (src : Source) : Nat → Nat → List Gap → Option Bool → List Gap × Tok
    | 0, j, gaps, _ => (gaps.reverse, { kind := .eof, text := "", start := j, stop := j })
    | fuel + 1, j, gaps, semi =>
      match semi with
      | some commentEnds =>
        if semicolonAt src commentEnds j then
          (gaps.reverse, { kind := .inferredSemicolon, text := "", start := j, stop := j })
        else step src fuel j gaps semi
      | none => step src fuel j gaps semi
  step (src : Source) (fuel j : Nat) (gaps : List Gap) (semi : Option Bool) : List Gap × Tok :=
    let k := skipWhile src isSyntaxBlank j
    match skippedAt k with
    | some e =>
      -- after skipped text, a closing brace lets a statement end without `;` only after a
      -- shorthand property or where the skipped text is marked lenient
      let k' := skipWhile src isSyntaxBlank e
      let semi :=
        if (want.shorthandBefore || env.repairs.lenient.contains k) && src.charAt k' == '}' &&
            !src.atEnd k' then semi
        else none
      go src fuel e (.skipped k e :: gaps) semi
    | none =>
      match commentEnd? src k with
      | some e => go src fuel e (.comment k e :: gaps) semi
      | none =>
        -- markup comments stand only where an operand or a statement may start
        match (if want.operand && want.semicolon.isNone then markupCommentEnd? src k
               else none) with
        | some e => go src fuel e (.markup k e :: gaps) semi
        | none => (gaps.reverse, lexAt src k)

/-- Kinds of the constructs that hold statements, where a `{` opens a block. -/
def statementHolders : List String :=
  ["program", "statement_block", "if_statement", "else_clause", "for_statement",
    "for_in_statement", "while_statement", "do_statement", "labeled_statement",
    "with_statement", "switch_case", "switch_default"]

/-- Whether the statement read so far is a lone name that directly follows the `{` of a block
in statement position. -/
def ReadState.shorthandBefore (st : ReadState) : Bool :=
  let lone (f : Frame) := f.children.size == 1 && f.children.all (·.kind == "identifier")
  match st.frames with
  | f :: b :: h :: _ =>
    lone f && b.kind == "statement_block" && b.children.size == 1 &&
      statementHolders.contains h.kind
  | _ => false

namespace Parse

def source : Parse Source := do return (← read).src

def failAt {α : Type} (tok : Tok) : Parse α := do
  throw { state := (← get), tok }

/-- The gaps and the next token as `want` asks, looked up among those already scanned at the
reading position. -/
def scan (want : Want) : Parse (List Gap × Tok) := do
  let st ← get
  let m := st.memo
  let here := m.pos == st.pos && m.shifts == st.shifts && m.assumedRead == st.assumedRead
  match (if here then m.entries.find? (·.1 == want) else none) with
  | some (_, found) => return found
  | none =>
    let found := scanToken (← read) st.assumedRead st.shifts want st.pos
    let entries := if here then (want, found) :: m.entries else [(want, found)]
    set { st with memo := { pos := st.pos, shifts := st.shifts, assumedRead := st.assumedRead,
                            entries } }
    return found

/-- The next token, without reading it. Whether the statement so far is a shorthand property
matters only with skipped text ahead. -/
def peek (want : Want) : Parse Tok := do
  let st ← get
  let skipAhead := (← read).repairs.skipped.any fun (a, _) => st.pos ≤ a
  return (← scan { want with shorthandBefore := skipAhead && st.shorthandBefore }).2

/-- Appends a finished node to the innermost frame. -/
def attach (n : Node) : Parse Unit :=
  modify fun st =>
    match st.frames with
    | f :: rest =>
      let f' := { f with start := some ((f.start.getD n.start).min n.start),
                         stop := max f.stop n.stop, children := f.children.push n }
      { st with frames := f' :: rest }
    | [] => st

/-- Extends the innermost frame over a token that has no node (an inferred semicolon). -/
def cover (startByte stopByte : Nat) : Parse Unit :=
  modify fun st =>
    match st.frames with
    | f :: rest =>
      { st with frames := { f with start := some ((f.start.getD startByte).min startByte),
                                   stop := max f.stop stopByte } :: rest }
    | [] => st

/-- Reads the gaps before `tok` and moves past it. -/
def passTo (tok : Tok) : Parse Unit := do
  let env ← read
  let (gaps, _) ← scan { operand := true }
  let comments := gaps.filterMap fun
    | .comment a b => if b ≤ tok.start then some (env.src.byteAt a, env.src.byteAt b) else none
    | _ => none
  let markups := gaps.filterMap fun
    | .markup a b => if b ≤ tok.start then some (env.src.byteAt a, env.src.byteAt b) else none
    | _ => none
  for (a, b) in markups do
    attach (.mk "html_comment" true false none a b [])
  let st ← get
  let frameKind := (st.frames.head?.map (·.kind)).getD ""
  let parentKind := ((st.frames.drop 1).head?.map (·.kind)).getD ""
  let trace :=
    if tok.assumed then
      some { closesBefore := st.closes, frameKind, parentKind }
    else match st.trace with
      | some t => if t.next.isNone then some { t with next := some (st.closes, tok.start, tok.kind) }
                  else some t
      | none => none
  set { st with pos := tok.stop, comments := st.comments ++ comments.toArray,
                assumedRead := if tok.assumed then st.assumedRead + 1 else st.assumedRead,
                shifts := st.shifts + 1, trace }

/-- Reads the markup comments before the next token, with the comments before them, as
children of the innermost frame: between statements they belong to the construct around,
not to the statement that follows. -/
def passMarkup : Parse Unit := do
  let env ← read
  let (gaps, _) ← scan { operand := true }
  let lastEnd := gaps.foldl (fun acc g => match g with
    | .markup _ e => some e
    | _ => acc) none
  match lastEnd with
  | none => pure ()
  | some e =>
    let taken := gaps.filter (·.stop ≤ e)
    let comments := taken.filterMap fun
      | .comment a b => some (env.src.byteAt a, env.src.byteAt b)
      | _ => none
    let st ← get
    set { st with pos := e, comments := st.comments ++ comments.toArray }
    for g in taken do
      match g with
      | .markup a b =>
        attach (.mk "html_comment" true false none (env.src.byteAt a) (env.src.byteAt b) [])
      | _ => pure ()

/-- Reads `tok` as a leaf of kind `kind`. -/
def shiftAs (tok : Tok) (kind : String) (named : Bool) (field : Option String) :
    Parse Unit := do
  passTo tok
  if tok.assumed && tok.kind == .word &&
      !([some "name", some "parameter", some "label"].contains field) then
    modify fun st => { st with trace := st.trace.map ({ · with folded := true }) }
  let src ← source
  if tok.kind == .inferredSemicolon then
    cover (src.byteAt tok.start) (src.byteAt tok.stop)
  else
    attach (.mk kind named tok.assumed field (src.byteAt tok.start)
      (src.byteAt tok.stop) [])

def shift (tok : Tok) (field : Option String) : Parse Unit :=
  shiftAs tok tok.text false field

def open_ (kind : String) (field : Option String) : Parse Unit :=
  modify fun st => { st with frames := { kind, field } :: st.frames }

/-- Closes the innermost frame, attaching its node to the frame below. -/
def close : Parse Unit := do
  let st ← get
  match st.frames with
  | f :: rest@(_ :: _) =>
    set { st with frames := rest, closes := st.closes + 1 }
    let s := f.start.getD f.stop
    attach (.mk f.kind f.named false f.field s f.stop f.children.toList)
  | _ => pure ()

/-- Opens a frame of kind `kind` around the last finished child of the innermost frame: the
new node fills the child's field, and the child fills `inner` in it. -/
def wrap (kind : String) (inner : Option String) : Parse Unit :=
  modify fun st =>
    match st.frames with
    | f :: rest =>
      match f.children.back? with
      | some c =>
        let f' := { f with children := f.children.pop }
        { st with frames := { kind, field := c.field, start := some c.start, stop := c.stop,
                              children := #[c.withField inner] } :: f' :: rest }
      | none => { st with frames := { kind } :: st.frames }
    | [] => st

/-- Renames the innermost frame. -/
def retag (kind : String) : Parse Unit :=
  modify fun st =>
    match st.frames with
    | f :: rest => { st with frames := { f with kind } :: rest }
    | [] => st

/-- The last finished child of the innermost frame. -/
def lastChild? : Parse (Option Node) := do
  match (← get).frames with
  | f :: _ => return f.children.back?
  | [] => return none

/-- Replaces the last finished child of the innermost frame. -/
def replaceLast (n : Node) : Parse Unit :=
  modify fun st =>
    match st.frames with
    | f :: rest =>
      { st with frames := { f with children := f.children.pop.push n } :: rest }
    | [] => st

/-- Runs `p`; on failure puts the state back and answers `none`. -/
def attempt {α : Type} (p : Parse α) : Parse (Option α) := do
  let saved ← get
  try
    let a ← p
    return some a
  catch _ =>
    set saved
    return none

/-- Runs `p`, and on its failure runs `q` from the same state instead. When both fail, the
failure that got further stands, that of `q` when they got as far: two readings of the same
text are followed side by side, and the text fails where the last of them fails. -/
def firstOrFurther {α : Type} (p q : Parse α) : Parse α := do
  let saved ← get
  try p
  catch e1 =>
    set saved
    try q
    catch e2 =>
      if e1.tok.start > e2.tok.start then throw e1 else throw e2

/-- Reads the characters `[i, j)` right after the last token, with no blanks before them,
as a leaf. -/
def shiftSpan (kind : String) (named : Bool) (field : Option String) (i j : Nat) :
    Parse Unit := do
  let src ← source
  modify fun st => { st with pos := j }
  attach (.mk kind named false field (src.byteAt i) (src.byteAt j) [])

def tokText (tok : Tok) : Parse String := do
  return (← source).charsBetween tok.start tok.stop

end Parse

end PluginLens.Syntax
