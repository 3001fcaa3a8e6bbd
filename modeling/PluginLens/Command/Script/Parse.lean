import PluginLens.Command.Script.Syntax

/-!
# Reading shell scripts

A script is read the way `sh` reads it: a line at a time at the top level (each line is run
before the next is read, so a syntax error on line 3 comes after lines 1 and 2 have run),
into the tree of `Script/Syntax`.

Words are read by a small machine over the classes of characters of its quoting context —
unquoted text, double quotes, single quotes and arithmetic — with a stack of those contexts
for the words inside `${…}` and `$((…))`. The machine decides where a word ends, which of
its characters are quoted, and which error an unfinished word gives: "Missing '))'" when
the innermost context is arithmetic, "Unterminated quoted string" when it is quoted, and
"Missing '}'" when a `${` is still open. Its output is a flat list of pieces, turned into
word parts afterwards.

Reserved words (`if`, `then`, `{`, …) are recognised only where a command may start, and
syntax errors name the token found (and the one expected) in the shell's words:
`"fi" unexpected (expecting "then")`, `end of file unexpected`.
-/

namespace PluginLens.Command

open ByteStr

/-- The tokens of the command language. -/
inductive Tok where
  | eof
  | newline
  | semi
  | amp
  | andIf
  | orIf
  | pipe
  | lparen
  | rparen
  | dsemi
  | redir
  | word
  | reserved (w : String)
  deriving Inhabited, BEq, Repr

def Tok.name : Tok → String
  | .eof => "end of file"
  | .newline => "newline"
  | .semi => "\";\""
  | .amp => "\"&\""
  | .andIf => "\"&&\""
  | .orIf => "\"||\""
  | .pipe => "\"|\""
  | .lparen => "\"(\""
  | .rparen => "\")\""
  | .dsemi => "\";;\""
  | .redir => "redirection"
  | .word => "word"
  | .reserved w => "\"" ++ w ++ "\""

def reservedWords : List String :=
  ["!", "case", "do", "done", "elif", "else", "esac", "fi", "for", "if", "in", "then",
    "until", "while", "\x7b", "\x7d"]

def Tok.endsList : Tok → Bool
  | .eof | .rparen | .dsemi => true
  | .reserved w => ["do", "done", "elif", "else", "esac", "fi", "then", "\x7d"].contains w
  | _ => false

/-- The built-in commands whose errors end the shell and whose names cannot name a
function. -/
def specialBuiltins : List String :=
  [".", ":", "break", "continue", "eval", "exec", "exit", "export", "readonly", "return",
    "set", "shift", "times", "trap", "unset"]

/-- A piece of a word as the reading machine produces it. -/
inductive Piece where
  | lit (c : Char)
  | esc (c : Char)
  | mark
  /-- The start of a parameter expansion: its kind (as a code, `0x10` for the colon forms),
  name, and whether it stands in double quotes. Every kind but the plain one is followed by
  its word and `endVar`. -/
  | var (kind : Nat) (name : ByteStr) (quoted : Bool)
  | endVar
  | subst (body : Option Cmd) (quoted : Bool)
  | ari (quoted : Bool)
  | endAri
  deriving Inhabited

/-- The quoting contexts of the reading machine. -/
inductive Syn where
  | base
  | dquote
  | squote
  | arith
  deriving Inhabited, BEq, Repr

/-- A quoting context with its counters: open `${` and parentheses, and whether a double
quote inside a `${…}` word is open. -/
structure Frame where
  syn : Syn
  innerdq : Bool := false
  varpushed : Bool := false
  dblquote : Bool := false
  varnest : Nat := 0
  parenlevel : Nat := 0
  dqvarnest : Nat := 0
  deriving Inhabited

/-- What the next token is read with: newlines skipped, reserved words recognised, or the
delimiter of a here-document (where `$` and `` ` `` are plain). -/
structure Check where
  nl : Bool := false
  kwd : Bool := false
  eofmark : Bool := false
  deriving Inhabited

/-- A here-document whose body is still to be read. -/
structure PendingHere where
  id : Nat
  mark : ByteStr
  stripTabs : Bool
  expand : Bool
  deriving Inhabited

/-- A syntax error, with the line it was found on. -/
structure SyntaxError where
  line : Nat
  message : String
  deriving Inhabited, Repr

/-- The reader's state: the input left, the line, the last token (and whether it was put
back), the last word with its pieces, the last redirection, and the here-documents. -/
structure ParseState where
  input : List Char
  line : Nat := 1
  pushed : Bool := false
  last : Tok := .eof
  word : Word := []
  pieces : List Piece := []
  quoted : Bool := false
  redir : Nat × RedirOp × Bool := (0, .input, false)
  check : Check := {}
  pending : List PendingHere := []
  bodies : HereDocs := []
  nextHere : Nat := 0
  deriving Inhabited

abbrev Parser := StateT ParseState (Except SyntaxError)

def synError {α : Type} (msg : String) : Parser α := do
  throw { line := (← get).line, message := "Syntax error: " ++ msg }

def synExpect {α : Type} (expected : Option Tok) : Parser α := do
  let last := (← get).last
  match expected with
  | some t => synError (last.name ++ " unexpected (expecting " ++ t.name ++ ")")
  | none => synError (last.name ++ " unexpected")

def pgetc : Parser (Option Char) := modifyGet fun st =>
  match st.input with
  | c :: rest => (some c, { st with input := rest })
  | [] => (none, st)

def dropContinuations : List Char → Nat → List Char × Nat
  | '\\' :: '\n' :: rest, n => dropContinuations rest (n + 1)
  | cs, n => (cs, n)

def pgetcJoined : Parser (Option Char) := do
  let st ← get
  let (rest, n) := dropContinuations st.input 0
  set { st with input := rest, line := st.line + n }
  pgetc

def pungetc : Option Char → Parser Unit
  | some c => modify fun st => { st with input := c :: st.input }
  | none => pure ()

def nextLine : Parser Unit := modify fun st => { st with line := st.line + 1 }

def pgetcIn (f : Frame) : Parser (Option Char) :=
  if f.syn == .squote then pgetc else pgetcJoined

/-- The classes of bytes of the reading machine. -/
inductive CharClass where
  | nl | word | back | squote | dquote | endquote | bquote | var | endvar | lp | rp | eof | spcl
  deriving BEq

def classify (syn : Syn) : Option Char → CharClass
  | none => .eof
  | some c =>
    match syn with
    | .base =>
      if c == '\n' then .nl else if c == '\\' then .back else if c == '\x27' then .squote
      else if c == '"' then .dquote else if c == '`' then .bquote else if c == '$' then .var
      else if c == '\x7d' then .endvar
      else if " \t;&|()<>".toList.contains c then .spcl else .word
    | .dquote =>
      if c == '\n' then .nl else if c == '\\' then .back else if c == '"' then .endquote
      else if c == '`' then .bquote else if c == '$' then .var
      else if c == '\x7d' then .endvar else .word
    | .squote =>
      if c == '\n' then .nl else if c == '\x27' then .endquote else .word
    | .arith =>
      if c == '\n' then .nl else if c == '\\' then .back else if c == '`' then .bquote
      else if c == '$' then .var else if c == '\x7d' then .endvar
      else if c == '(' then .lp else if c == ')' then .rp else .word

/-- A word being read: the context stack (innermost first), the pieces so far (last
first), and whether any quoting was seen. -/
structure WordBuild where
  frames : List Frame
  out : List Piece
  quotef : Bool
  deriving Inhabited

namespace WordBuild

def top (b : WordBuild) : Frame := b.frames.headD { syn := .base }

def setTop (b : WordBuild) (f : Frame) : WordBuild :=
  { b with frames := f :: b.frames.tail }

def put (b : WordBuild) (p : Piece) : WordBuild := { b with out := p :: b.out }

def putChar (b : WordBuild) (c : Char) : WordBuild :=
  match b.top.syn with
  | .base | .arith => b.put (.lit c)
  | _ => b.put (.esc c)

def pop (b : WordBuild) : WordBuild :=
  match b.frames with
  | [_] | [] => b
  | _ :: rest => { b with frames := rest }

end WordBuild

def kindAfterName (c : Option Char) : Option Nat :=
  match c with
  | some '\x7d' => some 1
  | some '-' => some 2
  | some '+' => some 3
  | some '?' => some 4
  | some '=' => some 5
  | _ => none

def isSpecialParam (c : Char) : Bool := isDigit c || "#?$!-*@".toList.contains c

def pieceText (ps : List Piece) : ByteStr :=
  ps.filterMap fun
    | .lit c | .esc c => some c
    | _ => none

/-- Whether a line of input (after leading tabs when `strip`) is the delimiter; answers the
input after the delimiter line when it is. -/
def delimiterLine? (mark : ByteStr) (input : List Char) : Option (List Char) :=
  if input.take mark.length == mark then
    match input.drop mark.length with
    | '\n' :: rest => some rest
    | [] => some []
    | _ => none
  else none

def paramOpOf (kind : Nat) : ParamOp :=
  let colon := kind &&& 0x10 != 0
  match kind &&& 0xf with
  | 1 => if colon then .bad else .plain
  | 2 => .orDefault colon
  | 3 => .ifSet colon
  | 4 => .orFail colon
  | 5 => .orAssign colon
  | 6 => .dropSuffix false
  | 7 => .dropSuffix true
  | 8 => .dropPrefix false
  | 9 => .dropPrefix true
  | 10 => .length
  | _ => .bad

/-- Adds a byte to the word parts being built (last part first), joining runs of the same
quoting. -/
def pushByte (quoted : Bool) (c : Char) : List WordPart → List WordPart
  | .lit s :: rest => if quoted then .quoted [c] :: .lit s :: rest else .lit (s ++ [c]) :: rest
  | .quoted s :: rest => if quoted then .quoted (s ++ [c]) :: rest else .lit [c] :: .quoted s :: rest
  | parts => (if quoted then .quoted [c] else .lit [c]) :: parts

/-- Groups pieces into word parts, up to an end marker (`endVar` or `endAri`, consumed) or
the end: answers the parts and the pieces after the end marker. A double-quoted `"$@"`
keeps no quote marks, so that with no parameters the word disappears. -/
def groupPieces : Nat → List Piece → Bool → List WordPart → List WordPart × List Piece
  | 0, ps, _, acc => (acc.reverse, ps)
  | _ + 1, [], _, acc => (acc.reverse, [])
  | fuel + 1, p :: ps, inq, acc =>
    match p with
    | .lit c => groupPieces fuel ps inq (pushByte false c acc)
    | .esc c => groupPieces fuel ps inq (pushByte true c acc)
    | .mark =>
      match ps with
      | .var 1 ['@'] q :: .mark :: rest =>
        if !inq then groupPieces fuel rest inq (.param ['@'] .plain [] q :: acc)
        else groupPieces fuel ps (!inq) (.quoteMark :: acc)
      | _ => groupPieces fuel ps (!inq) (.quoteMark :: acc)
    | .var kind name q =>
      if kind == 1 then groupPieces fuel ps inq (.param name .plain [] q :: acc)
      else
        let (arg, rest) := groupPieces fuel ps false []
        groupPieces fuel rest inq (.param name (paramOpOf kind) arg q :: acc)
    | .subst body q => groupPieces fuel ps inq (.subst body q :: acc)
    | .ari q =>
      let (e, rest) := groupPieces fuel ps false []
      groupPieces fuel rest inq (.arith e q :: acc)
    | .endVar | .endAri => (acc.reverse, ps)

def wordOfPieces (ps : List Piece) : Word := (groupPieces (2 * ps.length + 2) ps false []).1

/-- The parts of a word with the leading text before `=` removed, when the word is an
assignment `name=value`: answers the name and the value. -/
def assignmentOf? (w : Word) : Option (ByteStr × Word) :=
  match w with
  | .lit s :: rest =>
    let name := s.takeWhile (· != '=')
    if name.length < s.length && isName name then
      let value := s.drop (name.length + 1)
      some (name, if value.isEmpty then rest else .lit value :: rest)
    else none
  | _ => none

def plainText? (w : Word) : Option ByteStr :=
  match w with
  | [.lit s] => some s
  | [] => some []
  | _ => none

def setCheck (c : Check) : Parser Unit := modify fun st => { st with check := c }

def pushBack : Parser Unit := modify fun st => { st with pushed := true }

def setLast (t : Tok) : Parser Tok := do
  modify fun st => { st with last := t }
  pure t

def readWhile (p : Char → Bool) : Nat → List Char → Parser (List Char × Option Char)
  | 0, acc => do
    let c ← pgetcJoined
    pure (acc.reverse, c)
  | n + 1, acc => do
    let c ← pgetcJoined
    match c with
    | some ch => if p ch then readWhile p n (ch :: acc) else pure (acc.reverse, c)
    | none => pure (acc.reverse, none)

/-- Reads the name of a parameter expansion from byte `c`, with the kind so far (0 after
`${`, 1 after a bare `$`): a variable name, digits (one only after a bare `$`), or a special
parameter, where `${#…}` asks for a length. Answers the name (`none` for a bad one), the
kind and the byte after the name. -/
def paramName (c : Option Char) (kind : Nat) :
    Parser (Option ByteStr × Nat × Option Char) := do
  match c with
  | some ch =>
    if isNameStart ch || isDigit ch then plainName ch kind
    else if ch != '\x7d' then
      let c ← pgetcJoined
      if kind == 0 && ch == '#' then
        match c with
        | some d =>
          if d == '_' || isAlpha d || isDigit d then plainName d 10
          else lengthOrSpecial c
        | none => lengthOrSpecial c
      else if isSpecialParam ch then pure (some [ch], kind, c)
      else pure (none, kind, c)
    else pure (none, kind, c)
  | none =>
    let c ← pgetcJoined
    pure (none, kind, c)
where
  /-- A variable name, or digits (one only unless after `${`). -/
  plainName (ch : Char) (kind : Nat) : Parser (Option ByteStr × Nat × Option Char) := do
    if isNameStart ch then
      let (more, c) ← readWhile isNameChar (← get).input.length []
      pure (some (ch :: more), kind, c)
    else if kind == 0 then
      let (more, c) ← readWhile isDigit (← get).input.length []
      pure (some (ch :: more), kind, c)
    else
      let c ← pgetcJoined
      pure (some [ch], kind, c)
  /-- After `${#` and a byte that is not a name: `${#}` is `$#`, `${#?}` the length of
  `$?`, anything else the special parameter `#` followed by an operator. -/
  lengthOrSpecial (cc : Option Char) : Parser (Option ByteStr × Nat × Option Char) := do
    let c ← pgetcJoined
    if cc == some '\x7d' || c != some '\x7d' then
      pungetc c
      pure (some ['#'], 0, cc)
    else match cc with
      | some d => if isSpecialParam d then pure (some [d], 10, c) else pure (none, 0, c)
      | none => pure (none, 0, c)

/-- Reads the operator of a parameter expansion after its name (byte `c`): answers the
kind and the context its word is read in (a trimming pattern is read unquoted even inside
double quotes). A bad name puts `c` back. -/
def paramKind (bad : Bool) (kind : Nat) (c : Option Char) (syn : Syn) : Parser (Nat × Syn) := do
  if bad then
    pungetc c
    pure (if kind == 10 then 0 else kind, syn)
  else if kind == 0 then
    match c with
    | some ':' =>
      let c ← pgetcJoined
      pure (0x10 ||| (kindAfterName c).getD 0, syn)
    | some '%' | some '#' =>
      let k := if c == some '#' then 8 else 6
      let d ← pgetcJoined
      if d == c then pure (k + 1, .base)
      else
        pungetc d
        pure (k, .base)
    | _ => pure ((kindAfterName c).getD 0, syn)
  else
    pungetc c
    pure (if kind == 10 && c != some '\x7d' then 0 else kind, syn)

def backquoteText : Nat → Bool → List Char → Parser (List Char)
  | 0, _, acc => pure acc.reverse
  | n + 1, dq, acc => do
    match ← pgetcJoined with
    | some '`' => pure acc.reverse
    | some '\\' =>
      match ← pgetc with
      | some d =>
        let keep := d != '\\' && d != '`' && d != '$' && !(dq && d == '"')
        backquoteText n dq (d :: (if keep then '\\' :: acc else acc))
      | none => synError "EOF in backquote substitution"
    | some '\n' =>
      nextLine
      backquoteText n dq ('\n' :: acc)
    | some c => backquoteText n dq (c :: acc)
    | none => synError "EOF in backquote substitution"

mutual

/-- The machine reading a word from byte `c`: `lineStart` is set at the start of each line
(where a here-document's delimiter is looked for); `here` holds the delimiter and whether
leading tabs are dropped. Answers the word and the byte that ended it. -/
def wordLoop : Nat → Option Char → Bool → Option (ByteStr × Bool) → WordBuild →
    Parser (WordBuild × Option Char)
  | 0, c, _, _, b => pure (b, c)
  | fuel + 1, c, lineStart, here, b => do
    -- at a line start of a here-document, look for the delimiter line
    let c ← match here, lineStart with
      | some (mark, strip), true => do
        let mut c := c
        if strip then
          let st ← get
          let tabs := st.input.takeWhile (· == '\t')
          if c == some '\t' then
            set { st with input := st.input.drop tabs.length }
            c ← pgetc
        let st ← get
        let whole := match c with
          | some ch => ch :: st.input
          | none => []
        match c, delimiterLine? mark whole with
        | some _, some rest =>
          set { st with input := rest, line := st.line + 1 }
          pure none
        | none, _ =>
          if mark.isEmpty then pure none else pure c
        | _, none => pure c
      | _, _ => pure c
    let f := b.top
    match classify f.syn c with
    | .eof => pure (b, c)
    | .nl =>
      if f.syn == .base && f.varnest == 0 then pure (b, c)
      else
        nextLine
        let c' ← pgetcIn f
        wordLoop fuel c' true here (b.putChar '\n')
    | .word =>
      let b := match c with
        | some ch => b.putChar ch
        | none => b
      let c' ← pgetcIn f
      wordLoop fuel c' false here b
    | .spcl =>
      if f.varnest == 0 then pure (b, c)
      else
        let b := match c with
          | some ch => b.put (.lit ch)
          | none => b
        let c' ← pgetcIn f
        wordLoop fuel c' false here b
    | .back =>
      let d ← pgetc
      let b ← match d with
        | none =>
          pungetc none
          pure (b.put (.esc '\\'))
        | some d =>
          let keep := f.dblquote && d != '\\' && d != '`' && d != '$' &&
            (d != '"' || (here.isSome && f.varnest == 0)) && (d != '\x7d' || f.varnest == 0)
          let b := if keep then b.put (.esc '\\') else b
          pure { (b.put (.esc d)) with quotef := true }
      let c' ← pgetcIn b.top
      wordLoop fuel c' false here b
    | .squote =>
      let b := b.setTop { f with syn := .squote }
      let b := if here.isNone then b.put .mark else b
      let c' ← pgetcIn b.top
      wordLoop fuel c' false here b
    | .dquote =>
      let f' := { f with syn := .dquote, dblquote := true,
                         innerdq := if f.varnest > 0 then !f.innerdq else f.innerdq }
      let b := b.setTop f'
      let b := if here.isNone then b.put .mark else b
      let c' ← pgetcIn b.top
      wordLoop fuel c' false here b
    | .endquote =>
      if here.isSome && f.varnest == 0 then
        let b := match c with
          | some ch => b.putChar ch
          | none => b
        let c' ← pgetcIn f
        wordLoop fuel c' false here b
      else
        let f1 := if f.dqvarnest == 0 then { f with syn := .base, dblquote := false } else f
        let f2 := if c == some '"' && f1.varnest > 0 then { f1 with innerdq := !f1.innerdq } else f1
        let b := { (b.setTop f2) with quotef := true }
        let b := if here.isNone then b.put .mark else b
        let c' ← pgetcIn b.top
        wordLoop fuel c' false here b
    | .var =>
      let b ← parseSub fuel b
      let c' ← pgetcIn b.top
      wordLoop fuel c' false here b
    | .endvar =>
      if !f.innerdq && f.varnest > 0 then
        let n := f.varnest - 1
        let b := if n == 0 && f.varpushed then b.pop
          else if f.dqvarnest > 0 then b.setTop { f with varnest := n, dqvarnest := f.dqvarnest - 1 }
          else b.setTop { f with varnest := n }
        let b := b.put .endVar
        let c' ← pgetcIn b.top
        wordLoop fuel c' false here b
      else
        let c' ← pgetcIn f
        wordLoop fuel c' false here (b.putChar '\x7d')
    | .lp =>
      let b := (b.setTop { f with parenlevel := f.parenlevel + 1 }).put (.lit '(')
      let c' ← pgetcIn b.top
      wordLoop fuel c' false here b
    | .rp =>
      if f.parenlevel > 0 then
        let b := (b.setTop { f with parenlevel := f.parenlevel - 1 }).put (.lit ')')
        let c' ← pgetcIn b.top
        wordLoop fuel c' false here b
      else
        let d ← pgetcJoined
        if d == some ')' then
          let b := (b.put .endAri).pop
          let c' ← pgetcIn b.top
          wordLoop fuel c' false here b
        else
          pungetc d
          let b := b.put (.lit ')')
          let c' ← pgetcIn b.top
          wordLoop fuel c' false here b
    | .bquote =>
      if (← get).check.eofmark then
        let c' ← pgetcIn f
        wordLoop fuel c' false here (b.putChar '`')
      else
        let b ← parseBackquote fuel b
        let c' ← pgetcIn b.top
        wordLoop fuel c' false here b

/-- Reads what follows a `$`: a parameter, a command substitution or an arithmetic
expansion (or leaves a plain `$`). -/
def parseSub : Nat → WordBuild → Parser WordBuild
  | 0, b => pure b
  | fuel + 1, b => do
    let c ← pgetcJoined
    let f := b.top
    let plain := match c with
      | some ch => ch != '(' && ch != '\x7b' && !isNameStart ch && !isSpecialParam ch
      | none => true
    if (← get).check.eofmark || plain then
      pungetc c
      pure (b.putChar '$')
    else if c == some '(' then
      let d ← pgetcJoined
      if d == some '(' then
        let b := b.put (.ari f.dblquote)
        pure { b with frames := { syn := .arith, dblquote := true } :: b.frames }
      else
        pungetc d
        let body ← substBody fuel
        pure (b.put (.subst body f.dblquote))
    else
      let braced := c == some '\x7b'
      let c ← if braced then pgetcJoined else pure c
      let (name, kind, c) ← paramName c (if braced then 0 else 1)
      let (kind, newsyn) ← paramKind name.isNone kind c f.syn
      let newsyn := if newsyn == .arith then Syn.dquote else newsyn
      let b := b.put (.var kind (name.getD []) f.dblquote)
      let b := if (newsyn != f.syn || f.innerdq) && kind != 1 then
          { b with frames := { syn := newsyn, varpushed := true, dblquote := newsyn != .base }
              :: b.frames }
        else b
      if kind != 1 then
        let t := b.top
        pure (b.setTop { t with varnest := t.varnest + 1,
                                dqvarnest := if t.dblquote then t.dqvarnest + 1 else t.dqvarnest })
      else pure b

def substBody : Nat → Parser (Option Cmd)
  | 0 => pure none
  | fuel + 1 => do
    let saved := (← get).pending
    modify fun st => { st with pending := [] }
    let body ← list fuel 2
    let t ← readToken fuel
    if t != .rparen then synExpect (some .rparen)
    parseHereDocs fuel
    modify fun st => { st with pending := saved }
    pure body

/-- Reads a backquoted command substitution: its text up to the closing backquote (a
backslash keeps only before `\`, `` ` ``, `$` and, inside double quotes, `"`), then the
commands of that text. -/
def parseBackquote : Nat → WordBuild → Parser WordBuild
  | 0, b => pure b
  | fuel + 1, b => do
    let dq := b.top.dblquote
    let text ← backquoteText ((← get).input.length + 1) dq []
    let st ← get
    let inner : ParseState := { input := text, line := st.line, nextHere := st.nextHere,
                                bodies := st.bodies }
    match (list fuel 2).run inner with
    | .ok (body, after) =>
      set { st with nextHere := after.nextHere, bodies := after.bodies }
      pure (b.put (.subst body dq))
    | .error e => throw e

def xxReadToken : Nat → Parser Tok
  | 0 => pure .eof
  | fuel + 1 => do
    let st ← get
    if st.pushed then
      set { st with pushed := false }
      return st.last
    let c ← pgetcJoined
    match c with
    | some ' ' | some '\t' => xxReadToken fuel
    | some '#' =>
      let st ← get
      set { st with input := st.input.dropWhile (· != '\n') }
      xxReadToken fuel
    | some '\n' =>
      nextLine
      setLast .newline
    | none => setLast .eof
    | some '&' =>
      let d ← pgetcJoined
      if d == some '&' then setLast .andIf else do pungetc d; setLast .amp
    | some '|' =>
      let d ← pgetcJoined
      if d == some '|' then setLast .orIf else do pungetc d; setLast .pipe
    | some ';' =>
      let d ← pgetcJoined
      if d == some ';' then setLast .dsemi else do pungetc d; setLast .semi
    | some '(' => setLast .lparen
    | some ')' => setLast .rparen
    | some _ =>
      let (b, c) ← wordLoop fuel c false none { frames := [{ syn := .base }], out := [], quotef := false }
      let f := b.top
      if f.syn == .arith then synError "Missing '))'"
      if f.syn != .base then synError "Unterminated quoted string"
      if f.varnest != 0 then synError "Missing '\x7d'"
      let pieces := b.out.reverse
      let fdWord := match pieces with
        | [] => some none
        | [.lit d] => if isDigit d then some (some (d.toNat - '0'.toNat)) else none
        | _ => none
      match c, fdWord with
      | some '>', some fd => do
        let d ← pgetcJoined
        let op : RedirOp ← match d with
          | some '>' => pure .append
          | some '|' => pure .output
          | some '&' => pure .dupOutput
          | _ => do pungetc d; pure .output
        modify fun st => { st with redir := (fd.getD 1, op, false) }
        setLast .redir
      | some '<', some fd => do
        let d ← pgetcJoined
        let (op, strip) : RedirOp × Bool ← match d with
          | some '<' => do
            let id := (← get).nextHere
            modify fun st => { st with nextHere := id + 1 }
            let e ← pgetcJoined
            if e == some '-' then pure (.hereDoc id true, true)
            else do pungetc e; pure (.hereDoc id true, false)
          | some '&' => pure (.dupInput, false)
          | some '>' => pure (.readWrite, false)
          | _ => do pungetc d; pure (.input, false)
        modify fun st => { st with redir := (fd.getD 0, op, strip) }
        setLast .redir
      | _, _ =>
        pungetc c
        modify fun st => { st with word := wordOfPieces pieces, pieces, quoted := b.quotef }
        setLast .word

/-- Reads a token as the current check asks: newlines skipped (reading pending
here-documents), reserved words recognised. -/
def readToken : Nat → Parser Tok
  | 0 => pure .eof
  | fuel + 1 => do
    let kwd := (← get).check
    let mut t ← xxReadToken fuel
    if kwd.nl then
      for _ in [0:(← get).input.length + 1] do
        if t == .newline then
          parseHereDocs fuel
          setCheck {}
          t ← xxReadToken fuel
    setCheck {}
    if t == .word && kwd.kwd then
      let st ← get
      if !st.quoted then
        match plainText? st.word with
        | some s =>
          let w := String.ofList s
          if reservedWords.contains w then
            t ← setLast (.reserved w)
        | none => pure ()
    pure t

def parseHereDocs : Nat → Parser Unit
  | 0 => pure ()
  | fuel + 1 => do
    let pending := (← get).pending
    modify fun st => { st with pending := [] }
    for h in pending do
      let c ← if h.expand then pgetcJoined else pgetc
      let syn : Syn := if h.expand then .dquote else .squote
      let (b, _) ← wordLoop fuel c true (some (h.mark, h.stripTabs))
        { frames := [{ syn, dblquote := h.expand }], out := [], quotef := false }
      let body := wordOfPieces b.out.reverse
      modify fun st => { st with bodies := st.bodies ++ [(h.id, body)] }

/-- A command list. `nlflag` 1 reads one line of the top level; 0 reads the body of a
compound command (newlines are separators, and it must not be empty); 2 reads a body that
may be empty. -/
def list : Nat → Nat → Parser (Option Cmd)
  | 0, _ => pure none
  | fuel + 1, nlflag => listLoop fuel nlflag none

def listLoop : Nat → Nat → Option Cmd → Parser (Option Cmd)
  | 0, _, n1 => pure n1
  | fuel + 1, nlflag, n1 => do
    let chknl := nlflag &&& 1 == 0
    setCheck { nl := chknl, kwd := true }
    let tok ← readToken fuel
    match tok with
    | .newline =>
      parseHereDocs fuel
      pure n1
    | .eof =>
      parseHereDocs fuel
      modify fun st => { st with pushed := true, last := .eof }
      pure n1
    | _ =>
      pushBack
      if nlflag == 2 && tok.endsList then return n1
      let nlflag := nlflag ||| 2
      let n2 ← andOr fuel
      let tok ← readToken fuel
      let n2 := if tok == .amp then Cmd.background n2 else n2
      let n1 := match n1 with
        | some a => some (Cmd.seq a n2)
        | none => some n2
      match tok with
      | .eof =>
        parseHereDocs fuel
        modify fun st => { st with pushed := true, last := .eof }
        pure n1
      | .newline =>
        pushBack
        listLoop fuel nlflag n1
      | .amp | .semi => listLoop fuel nlflag n1
      | _ =>
        if !chknl then synExpect none
        pushBack
        pure n1

def andOr : Nat → Parser Cmd
  | 0 => pure .empty
  | fuel + 1 => do
    let n1 ← pipeline fuel
    andOrRest fuel n1

def andOrRest : Nat → Cmd → Parser Cmd
  | 0, n1 => pure n1
  | fuel + 1, n1 => do
    let t ← readToken fuel
    if t == .andIf || t == .orIf then
      setCheck { nl := true, kwd := true }
      let n2 ← pipeline fuel
      andOrRest fuel (if t == .andIf then .andThen n1 n2 else .orElse n1 n2)
    else
      pushBack
      pure n1

def pipeline : Nat → Parser Cmd
  | 0 => pure .empty
  | fuel + 1 => do
    let t ← readToken fuel
    let negate := t == .reserved "!"
    if negate then setCheck { kwd := true } else pushBack
    let n1 ← command fuel
    let t ← readToken fuel
    let n1 ← if t == .pipe then do
        let rest ← pipeRest fuel []
        pure (Cmd.pipeline (n1 :: rest))
      else pure n1
    pushBack
    pure (if negate then .negate n1 else n1)

def pipeRest : Nat → List Cmd → Parser (List Cmd)
  | 0, acc => pure acc.reverse
  | fuel + 1, acc => do
    setCheck { nl := true, kwd := true }
    let c ← command fuel
    let t ← readToken fuel
    if t == .pipe then pipeRest fuel (c :: acc) else pure (c :: acc).reverse

def trailingRedirs : Nat → List Redir → Parser (List Redir)
  | 0, acc => pure acc.reverse
  | fuel + 1, acc => do
    if acc.isEmpty then setCheck { kwd := true }
    let t ← readToken fuel
    if t == .redir then
      let r ← parseFileName fuel
      trailingRedirs fuel (r :: acc)
    else
      pushBack
      pure acc.reverse

def expectClose : Nat → Tok → Parser Unit
  | 0, _ => pure ()
  | fuel + 1, t => do
    if (← readToken fuel) != t then synExpect (some t)

def command : Nat → Parser Cmd
  | 0 => pure .empty
  | fuel + 1 => do
    let savedLine := (← get).line
    let t ← readToken fuel
    let body ← match t with
      | .reserved "if" => do
        let cond ← list fuel 0
        expectClose fuel (.reserved "then")
        let part ← list fuel 0
        let other ← elifChain fuel
        expectClose fuel (.reserved "fi")
        pure (Cmd.ifThen cond part other)
      | .reserved "while" | .reserved "until" => do
        let cond ← list fuel 0
        expectClose fuel (.reserved "do")
        let b ← list fuel 0
        expectClose fuel (.reserved "done")
        pure (Cmd.loop (t == .reserved "until") cond b)
      | .reserved "for" => do
        let v ← readToken fuel
        let st ← get
        let var := match v, plainText? st.word with
          | .word, some s => if !st.quoted && isName s then some s else none
          | _, _ => none
        match var with
        | none => synError "Bad for loop variable"
        | some var =>
          setCheck { nl := true, kwd := true }
          let words ← if (← readToken fuel) == .reserved "in" then do
              let ws ← forWords fuel []
              let last := (← get).last
              if last != .newline && last != .semi then synExpect none
              pure (some ws)
            else do
              if (← get).last != .semi then pushBack
              pure none
          setCheck { nl := true, kwd := true }
          expectClose fuel (.reserved "do")
          let b ← list fuel 0
          expectClose fuel (.reserved "done")
          pure (Cmd.forEach var words b savedLine)
      | .reserved "case" => do
        if (← readToken fuel) != .word then synExpect (some .word)
        let subject := (← get).word
        setCheck { nl := true, kwd := true }
        if (← readToken fuel) != .reserved "in" then synExpect (some (.reserved "in"))
        let arms ← caseArms fuel []
        pure (Cmd.caseOf subject arms savedLine)
      | .lparen => do
        let b ← list fuel 0
        expectClose fuel .rparen
        pure (Cmd.subshell b [] savedLine)
      | .reserved "\x7b" => do
        let b ← list fuel 0
        expectClose fuel (.reserved "\x7d")
        pure (b.getD .empty)
      | .word | .redir => do
        pushBack
        return (← simpleCmd fuel)
      | _ => synExpect none
    let redirs ← trailingRedirs fuel []
    if redirs.isEmpty then pure body
    else match body with
      | .subshell b _ line => pure (.subshell b redirs line)
      | other => pure (.redirected other redirs)

def elifChain : Nat → Parser (Option Cmd)
  | 0 => pure none
  | fuel + 1 => do
    let t ← readToken fuel
    if t == .reserved "elif" then
      let cond ← list fuel 0
      expectClose fuel (.reserved "then")
      let part ← list fuel 0
      let other ← elifChain fuel
      pure (some (.ifThen cond part other))
    else if t == .reserved "else" then
      list fuel 0
    else
      pushBack
      pure none

def forWords : Nat → List Word → Parser (List Word)
  | 0, acc => pure acc.reverse
  | fuel + 1, acc => do
    if (← readToken fuel) == .word then forWords fuel ((← get).word :: acc)
    else pure acc.reverse

def caseArms : Nat → List (List Word × Option Cmd) → Parser (List (List Word × Option Cmd))
  | 0, acc => pure acc.reverse
  | fuel + 1, acc => do
    setCheck { nl := true, kwd := true }
    let t ← readToken fuel
    if t == .reserved "esac" then return acc.reverse
    if (← get).last == .lparen then discard (readToken fuel)
    let pats ← casePatterns fuel []
    if (← get).last != .rparen then synExpect (some .rparen)
    let body ← list fuel 2
    setCheck { nl := true, kwd := true }
    let t ← readToken fuel
    let acc := (pats, body) :: acc
    if t == .reserved "esac" then pure acc.reverse
    else if t != .dsemi then synExpect (some .dsemi)
    else caseArms fuel acc

def casePatterns : Nat → List Word → Parser (List Word)
  | 0, acc => pure acc.reverse
  | fuel + 1, acc => do
    let acc := (← get).word :: acc
    if (← readToken fuel) != .pipe then return acc.reverse
    discard (readToken fuel)
    casePatterns fuel acc

def parseFileName : Nat → Parser Redir
  | 0 => pure (.mk 0 .input [])
  | fuel + 1 => do
    let (fd, op, strip) := (← get).redir
    match op with
    | .hereDoc _ _ => setCheck { eofmark := true }
    | _ => pure ()
    if (← readToken fuel) != .word then synExpect none
    let st ← get
    match op with
    | .hereDoc id _ =>
      let expand := !st.quoted
      let h : PendingHere := { id, mark := pieceText st.pieces, stripTabs := strip, expand }
      set { st with pending := st.pending ++ [h] }
      pure (.mk fd (.hereDoc id expand) [])
    | _ => pure (.mk fd op st.word)

def simpleCmd : Nat → Parser Cmd
  | 0 => pure .empty
  | fuel + 1 => do
    let line := (← get).line
    simpleLoop fuel line true [] [] []

def simpleLoop : Nat → Nat → Bool → List (ByteStr × Word) → List Word → List Redir → Parser Cmd
  | 0, line, _, vars, args, redirs => pure (.simple vars.reverse args.reverse redirs.reverse line)
  | fuel + 1, line, assigning, vars, args, redirs => do
    setCheck {}
    let t ← readToken fuel
    match t with
    | .word =>
      let w := (← get).word
      match (if assigning then assignmentOf? w else none) with
      | some a => simpleLoop fuel line assigning (a :: vars) args redirs
      | none => simpleLoop fuel line false vars (w :: args) redirs
    | .redir =>
      let r ← parseFileName fuel
      simpleLoop fuel line assigning vars args (r :: redirs)
    | .lparen =>
      match args, vars, redirs with
      | [w], [], [] =>
        if (← readToken fuel) != .rparen then synExpect (some .rparen)
        let name := plainText? w
        match name with
        | some n =>
          if !isName n || specialBuiltins.contains (String.ofList n) then
            synError "Bad function name"
          setCheck { nl := true, kwd := true }
          let defLine := (← get).line
          let body ← command fuel
          pure (.defun n body defLine)
        | none => synError "Bad function name"
      | _, _, _ =>
        pushBack
        pure (.simple vars.reverse args.reverse redirs.reverse line)
    | _ =>
      pushBack
      pure (.simple vars.reverse args.reverse redirs.reverse line)

end

def parseFuel (input : List Char) : Nat := 64 * (input.length + 16)

/-- Reads the next line of commands of a script: `none` at the end of the input, `some none`
for a blank line. Answers the state after it, to read the next line from. -/
def parseNext (st : ParseState) :
    Except SyntaxError (Option (Option Cmd) × ParseState) :=
  let st := { st with pushed := false, check := {}, pending := [] }
  match (list (parseFuel st.input) 1).run st with
  | .ok (r, st') =>
    if r.isNone && st'.last == .eof then .ok (none, st') else .ok (some r, st')
  | .error e => .error e

/-- Reads a whole text as one command list, as `eval` and `.` read theirs line by line;
here-documents are numbered from `firstHere`. -/
def parseStart (text : ByteStr) (line firstHere : Nat) : ParseState :=
  { input := text, line, nextHere := firstHere }

end PluginLens.Command
