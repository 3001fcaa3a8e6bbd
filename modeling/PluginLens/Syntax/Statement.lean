import PluginLens.Syntax.Expression

/-!
# Statements and programs

Declarations, control flow, modules' `import` and `export`, blocks and labels. A statement
that ends with an expression or a name is closed by `;` or by an inferred semicolon; the
comment rule of that inferred semicolon depends on whether the statement ended with an
expression.

`Entries.step` builds the entry points of one nesting level from those of the level below;
`Entries.ofDepth` ties the levels together up to a depth bound, and `readProgram` reads a
whole text with a bound no nesting can reach.
-/

namespace PluginLens.Syntax

open Parse

section

variable (E : Unit → Entries)

def terminate (rule : Bool) : Parse Unit := do
  let t ← peek { semicolon := some rule }
  if t.isPunct ";" || t.kind == .inferredSemicolon then shift t none else failAt t

def optionalSemicolon (rule : Bool) (explicit : Bool) : Parse Unit := do
  let t ← peek { semicolon := some rule }
  if t.kind == .inferredSemicolon || (explicit && t.isPunct ";") then shift t none

/-- Reads `( expression )` as a parenthesized expression. -/
def parenthesized (field : Option String) : Parse Unit := do
  open_ "parenthesized_expression" field
  expect "(" {} none
  (E ()).expression { closers := [")"], sequence := true } none
  expect ")" {} none
  close

/-- Reads declarators separated by commas and the end of the declaration. -/
def declarators (inLoopHead : Bool) : Parse Unit := do
  for _ in [0:(← budget)] do
    open_ "variable_declarator" none
    (E ()).pattern (some "name")
    let t ← peek { semicolon := some true }
    let mut rule := true
    if t.isPunct "=" then
      shift t none
      (E ()).assignment { statementEnd := some false, closers := [","] } (some "value")
      rule := false
    close
    let u ← peek { semicolon := some rule }
    if u.isPunct "," then shift u none
    else
      if inLoopHead then expect ";" {} none else terminate rule
      return
  failNext {}

/-- Reads a `var`, `let` or `const` declaration. -/
def declaration (inLoopHead : Bool) (field : Option String) : Parse Unit := do
  let t ← peek {}
  if t.isWord "var" then
    open_ "variable_declaration" field
    shift t none
  else
    open_ "lexical_declaration" field
    shift t (some "kind")
  declarators E inLoopHead
  close

/-- Reads an expression statement. -/
def expressionStatement (field : Option String) : Parse Unit := do
  open_ "expression_statement" field
  (E ()).expression (Follow.statement false) none
  terminate false
  close

/-- Reads the statements of a block, a case or a program up to a token that `stop` accepts;
the end of the text, unless `stop` accepts it, is a failure. -/
def statementsUntil (stop : Tok → Bool) (field : Option String) : Parse Unit := do
  for _ in [0:(← budget)] do
    let t ← peek { operand := true }
    if stop t then return
    if t.kind == .eof then failAt t
    passMarkup
    let before := (← get).pos
    (E ()).statement field
    if (← get).pos == before then failAt t

/-- Reads a block `{ … }` with the optional inferred semicolon after it. -/
def block (field : Option String) : Parse Unit := do
  open_ "statement_block" field
  expect "\x7b" {} none
  statementsUntil E (·.isPunct "\x7d") none
  expect "\x7d" { operand := true } none
  optionalSemicolon false false
  close

/-- Reads the head and body of a `for` loop of any form. -/
def forStatement (field : Option String) : Parse Unit := do
  open_ "for_statement" field
  let t ← peek {}
  shift t none
  let a ← peek {}
  if a.isWord "await" then shift a none
  expect "(" {} none
  -- a `for … in` or `for … of` head
  let loopHead ← attempt (do
    let (k, n) ← peek2 {} {}
    -- after `let`, a following `in` or `of` is read as the operator, so `let` is a name
    let letName := k.isWord "let" && (n.isWord "in" || n.isWord "of")
    if k.isWord "var" || k.isWord "const" || (k.isWord "let" && !letName) then
      shift k (some "kind")
      (E ()).pattern (some "left")
      if k.isWord "var" then
        let e ← peek {}
        if e.isPunct "=" then
          shift e none
          (E ()).assignment { noIn := true, loopWords := true } (some "value")
    else
      (E ()).assignment { noIn := true, loopWords := true, cover := true } (some "left")
      match ← lastChild? with
      | some c => replaceLast c.asPattern
      | none => pure ()
    let o ← peek {}
    if o.isWord "in" || o.isWord "of" then shift o (some "operator") else failAt o)
  match loopHead with
  | some _ =>
    retag "for_in_statement"
    (E ()).expression { closers := [")"], sequence := true } (some "right")
  | none =>
    let k ← peek { operand := true }
    if k.isWord "var" || k.isWord "const" then declaration E true (some "initializer")
    else if k.isWord "let" then
      let (_, n) ← peek2 {} {}
      if n.kind == .word || n.isPunct "[" || n.isPunct "\x7b" then
        declaration E true (some "initializer")
      else
        (E ()).expression { closers := [";"], sequence := true } (some "initializer")
        expect ";" {} none
    else if k.isPunct ";" then
      open_ "empty_statement" (some "initializer")
      shift k none
      close
    else
      (E ()).expression { closers := [";"], sequence := true } (some "initializer")
      expect ";" {} none
    let c ← peek { operand := true }
    if c.isPunct ";" then
      open_ "empty_statement" (some "condition")
      shift c none
      close
    else
      (E ()).expression { closers := [";"], sequence := true } (some "condition")
      expect ";" {} none
    let i ← peek { operand := true }
    if !i.isPunct ")" then
      (E ()).expression { closers := [")"], sequence := true } (some "increment")
  let cl ← peek {}
  expect ")" {} none
  -- the head of a `for … in` or `for … of` loop is a construct of its own, finished by its `)`
  -- before the body is read
  if loopHead.isSome && cl.assumed then
    modify fun st => { st with trace := st.trace.map ({ · with folded := true }) }
  (E ()).statement (some "body")
  close

/-- Reads a `try` statement with its optional `catch` and `finally` clauses; the grammar
asks for neither. -/
def tryStatement (field : Option String) : Parse Unit := do
  open_ "try_statement" field
  let t ← peek {}
  shift t none
  (E ()).block (some "body")
  let c ← peek {}
  if c.isWord "catch" then
    open_ "catch_clause" (some "handler")
    shift c none
    let p ← peek {}
    if p.isPunct "(" then
      shift p none
      (E ()).pattern (some "parameter")
      expect ")" {} none
    (E ()).block (some "body")
    close
  let f ← peek {}
  if f.isWord "finally" then
    open_ "finally_clause" (some "finalizer")
    shift f none
    (E ()).block (some "body")
    close
  close

/-- Reads a `switch` statement. -/
def switchStatement (field : Option String) : Parse Unit := do
  open_ "switch_statement" field
  let t ← peek {}
  shift t none
  parenthesized E (some "value")
  open_ "switch_body" (some "body")
  expect "\x7b" {} none
  for _ in [0:(← budget)] do
    let k ← peek {}
    if k.isPunct "\x7d" then break
    if k.isWord "case" then
      open_ "switch_case" none
      shift k none
      (E ()).expression { closers := [":"], sequence := true } (some "value")
    else if k.isWord "default" then
      open_ "switch_default" none
      shift k none
    else failAt k
    expect ":" {} none
    statementsUntil E (fun u => u.isPunct "\x7d" || u.isWord "case" || u.isWord "default")
      (some "body")
    close
  expect "\x7d" {} none
  close
  close

/-- Reads a statement that starts with a keyword and ends like an expression statement:
`return`, `throw`, `break`, `continue` or `debugger`. -/
def jumpStatement (kind : String) (field : Option String) : Parse Unit := do
  open_ kind field
  let t ← peek {}
  shift t none
  match kind with
  | "return_statement" =>
    let e ← peek { operand := true, semicolon := some true }
    if e.isPunct ";" || e.kind == .inferredSemicolon then shift e none
    else
      (E ()).expression (Follow.statement false) none
      terminate false
  | "throw_statement" =>
    (E ()).expression (Follow.statement false) none
    terminate false
  | "debugger_statement" => terminate true
  | _ =>
    let l ← peek { semicolon := some true }
    if l.kind == .word then shiftAs l "statement_identifier" true (some "label")
    terminate true
  close

/-- Reads a module name: an identifier, a string or `default`. -/
def moduleName (field : Option String) : Parse Unit := do
  let t ← peek {}
  if t.isQuote then stringLiteral t field
  else if t.isWord "default" then shift t field
  else if t.kind == .word then shiftAs t "identifier" true field
  else failAt t

/-- Reads `{ a, b as c }` of an import or export, with specifiers of kind `item`. The list may
end with a comma, even when it is empty, as in `{ , }`. -/
def specifierList (kind item : String) (field : Option String) : Parse Unit := do
  open_ kind field
  expect "\x7b" {} none
  let c ← peek {}
  if c.isPunct "," then
    shift c none
    expect "\x7d" {} none
    close
    return
  for _ in [0:(← budget)] do
    let t ← peek {}
    if t.isPunct "\x7d" then
      shift t none
      close
      return
    open_ item none
    moduleName (some "name")
    let a ← peek {}
    if a.isWord "as" then
      shift a none
      moduleName (some "alias")
    close
    let u ← peek {}
    if u.isPunct "," then shift u none
    else if u.isPunct "\x7d" then
      shift u none
      close
      return
    else failAt u
  failNext {}

/-- Reads `from 'source'`. -/
def fromClause : Parse Unit := do
  expectWord "from" none
  let s ← peek {}
  if s.isQuote then stringLiteral s (some "source") else failAt s

/-- Reads an `import` statement. -/
def importStatement (field : Option String) : Parse Unit := do
  open_ "import_statement" field
  let t ← peek {}
  shift t none
  let s ← peek {}
  if s.isQuote then stringLiteral s (some "source")
  else
    open_ "import_clause" none
    let mut more := true
    if s.kind == .word then
      shiftAs s "identifier" true none
      let c ← peek {}
      if c.isPunct "," then shift c none else more := false
    if more then
      let n ← peek {}
      if n.isPunct "*" then
        open_ "namespace_import" none
        shift n none
        expectWord "as" none
        let i ← peek {}
        if i.kind == .word then shiftAs i "identifier" true none else failAt i
        close
      else if n.isPunct "\x7b" then specifierList "named_imports" "import_specifier" none
      else failAt n
    close
    fromClause
  let w ← peek { semicolon := some true }
  if w.isWord "with" then
    open_ "import_attribute" none
    shift w none
    objectLiteral E none
    close
  terminate true
  close

/-- Reads an `export` statement. -/
def exportStatement (field : Option String) : Parse Unit := do
  open_ "export_statement" field
  decorators E (some "decorator")
  expectWord "export" none
  let t ← peek {}
  if t.isPunct "*" then
    let (_, u) ← peek2 {} {}
    if u.isWord "as" then
      open_ "namespace_export" none
      shift t none
      shift u none
      moduleName none
      close
    else shift t none
    fromClause
    terminate true
  else if t.isPunct "\x7b" then
    specifierList "export_clause" "export_specifier" none
    let f ← peek { semicolon := some true }
    if f.isWord "from" then fromClause
    terminate true
  else if t.isWord "default" then
    shift t none
    let (d, n) ← peek2 {} {}
    let (_, n2) ← peek2 {} {}
    let asyncNamed := d.isWord "async" && n.isWord "function" &&
      (scanToken (← read) (← get).assumedRead (← get).shifts {} n.stop).2.kind == .word
    let named := (d.isWord "function" && (n.kind == .word ||
        (n.isPunct "*" && (scanToken (← read) (← get).assumedRead (← get).shifts {} n.stop).2.kind == .word)))
      || asyncNamed
      || (d.isWord "class" && n2.kind == .word && !n2.isWord "extends")
    if named then
      if d.isWord "class" then classLiteral E true (some "declaration")
      else functionLiteral E true (some "declaration")
    else
      (E ()).expression (Follow.statement false) (some "value")
      terminate false
  else
    let d ← peek {}
    if d.isWord "var" || d.isWord "let" || d.isWord "const" then
      declaration E false (some "declaration")
    else if d.isWord "function" || d.isWord "async" then functionLiteral E true (some "declaration")
    else if d.isWord "class" || d.isPunct "@" then classLiteral E true (some "declaration")
    else failAt d
  close

/-- Whether `export` followed by the token `u` is a name in an expression rather than the
start of an export: `export` may name a variable, and after it the tokens that go on an
expression (operators, a conditional's `?`, a call, a member access, an assignment) and the
end of the text cannot go on an export. -/
def exportAsName (u : Tok) : Bool :=
  match u.kind with
  | .eof => true
  | .word => u.text == "in" || u.text == "instanceof"
  | .punct =>
    (binaryStrength u.text).isSome && u.text != "*" ||
      ["(", ".", "?.", "[", "=", "=>", "`", "++", "--", ";", ","].contains u.text ||
      compoundAssignments.contains u.text
  | .badChar => u.text == "?"
  | _ => false

/-- Whether the decorators at the next token stand before `export` (an export statement holds
them) rather than before `class`; nothing is read. -/
def decoratesExport : Parse Bool := do
  let saved ← get
  let ahead ← attempt do
    decorators E none
    return (← peek {}).isWord "export"
  set saved
  return ahead.getD false

/-- Reads one statement. -/
def statement (field : Option String) : Parse Unit := do
  let (t, u) ← peek2 { operand := true } {}
  match t.kind with
  | .punct =>
    if t.text == "\x7b" then block E field
    else if t.text == ";" then
      open_ "empty_statement" field
      shift t none
      close
    else if t.text == "@" then
      if ← decoratesExport E then exportStatement E field else classLiteral E true field
    else expressionStatement E field
  | .word =>
    if u.isPunct ":" && !(["case", "default"].contains t.text) then
      open_ "labeled_statement" field
      shiftAs t "statement_identifier" true (some "label")
      shift u none
      (E ()).statement (some "body")
      close
    else
      match t.text with
      | "var" | "const" => declaration E false field
      | "let" =>
        if u.kind == .word || u.isPunct "[" || u.isPunct "\x7b" then declaration E false field
        else expressionStatement E field
      | "if" =>
        open_ "if_statement" field
        shift t none
        parenthesized E (some "condition")
        (E ()).statement (some "consequence")
        let e ← peek {}
        if e.isWord "else" then
          open_ "else_clause" (some "alternative")
          shift e none
          (E ()).statement none
          close
        close
      | "for" => forStatement E field
      | "while" =>
        open_ "while_statement" field
        shift t none
        parenthesized E (some "condition")
        (E ()).statement (some "body")
        close
      | "do" =>
        open_ "do_statement" field
        shift t none
        (E ()).statement (some "body")
        expectWord "while" none
        parenthesized E (some "condition")
        optionalSemicolon true true
        close
      | "try" => tryStatement E field
      | "switch" => switchStatement E field
      | "with" =>
        open_ "with_statement" field
        shift t none
        parenthesized E (some "object")
        (E ()).statement (some "body")
        close
      | "return" => jumpStatement E "return_statement" field
      | "throw" => jumpStatement E "throw_statement" field
      | "break" => jumpStatement E "break_statement" field
      | "continue" => jumpStatement E "continue_statement" field
      | "debugger" => jumpStatement E "debugger_statement" field
      | "import" =>
        if u.isPunct "(" || u.isPunct "." then expressionStatement E field
        else importStatement E field
      | "export" =>
        if exportAsName u then expressionStatement E field else exportStatement E field
      | "function" =>
        if u.kind == .word || u.isPunct "*" then
          functionLiteral E true field
          optionalSemicolon false false
        else expressionStatement E field
      | "async" =>
        if u.isWord "function" then
          functionLiteral E true field
          optionalSemicolon false false
        else expressionStatement E field
      | "class" =>
        if u.kind == .word && !u.isWord "extends" then
          classLiteral E true field
          optionalSemicolon false false
        else expressionStatement E field
      | _ => expressionStatement E field
  | _ => expressionStatement E field

end

namespace Entries

/-- Entry points that read nothing: reached only when the depth bound is spent. -/
def exhausted : Entries where
  expression _ _ := failNext {}
  assignment _ _ := failNext {}
  constructor _ := failNext {}
  pattern _ := failNext {}
  element _ _ := failNext {}
  tentativeElement _ _ := failNext {}
  target _ _ := failNext {}
  block _ := failNext {}
  statement _ := failNext {}
  markup _ := failNext {}

/-- The entry points of one nesting level, given those of the level below. -/
def step (E : Unit → Entries) : Entries where
  expression := Syntax.expression E
  assignment := Syntax.assignment E
  constructor := constructorOperand E
  pattern := bindingPattern E false
  element := patternElement E
  tentativeElement := bindingElement E
  target := lhsTarget E
  block := Syntax.block E
  statement := Syntax.statement E
  markup := markupElement E

def ofDepth : Nat → Entries
  | 0 => exhausted
  | depth + 1 => step fun _ => ofDepth depth

end Entries

/-- Reads a whole program: an optional `#!` line, then statements to the end of the text. -/
def programReader : Parse Unit := do
  let src ← source
  let E : Unit → Entries := fun _ => Entries.ofDepth (8 * src.size + 16)
  let t ← peek {}
  if t.kind == .hashBang then shiftAs t "hash_bang_line" true none
  statementsUntil E (·.kind == .eof) none
  let e ← peek { operand := true }
  if e.kind != .eof then failAt e
  passTo e

end PluginLens.Syntax
