import PluginLens.Syntax.Markup
import PluginLens.Syntax.Pattern

/-!
# Expressions

Operands, their prefix operators and tails, binary operators by binding strength,
conditionals, assignments and comma sequences, and the literals that hold nested code:
objects, arrays, functions, classes and arrow functions. Binding patterns (the targets of
declarations and parameters) are read here as well, since their default values are
expressions.

Every reader takes the field its node fills in the parent. The operators are read the way an
operator-precedence table reads them: the frames still open for binary operators are the
stack of pending operators. After an operand and its tail, the next token must either
continue the expression or be one of the tokens the surrounding construct admits
(`Follow`); otherwise reading fails right there, with the operand's pieces still unfinished.
-/

namespace PluginLens.Syntax

open Parse

def assignTargets : List String :=
  ["identifier", "member_expression", "subscript_expression", "parenthesized_expression",
    "object", "array", "undefined"]

def updateTargets : List String :=
  ["identifier", "member_expression", "subscript_expression", "parenthesized_expression"]

/-- The node a prefix operator builds, if the token is one. -/
def prefixNode? (t : Tok) : Option String :=
  match t.kind with
  | .punct =>
    match t.text with
    | "!" | "~" | "-" | "+" => some "unary_expression"
    | "++" | "--" => some "update_expression"
    | _ => none
  | .word =>
    match t.text with
    | "typeof" | "void" | "delete" => some "unary_expression"
    | "await" => some "await_expression"
    | _ => none
  | _ => none

def Tok.startsPropertyName (t : Tok) : Bool :=
  t.kind == .word || t.kind == .number || t.kind == .privateName || t.isPunct "[" || t.isQuote

/-- Whether a token can begin an expression. -/
def Tok.startsExpression (t : Tok) : Bool :=
  match t.kind with
  | .word | .number | .privateName => true
  | .badChar => t.isQuote
  | .punct =>
    ["(", "[", "\x7b", "`", "/", "/=", "!", "~", "-", "+", "++", "--", "@", "<", "<<", "<=",
      "<<="].contains t.text
  | _ => false

section

variable (E : Unit → Entries)

/-- Reads a property name: a word, a string, a number, a private name or `[expression]`. -/
def propertyName (field : Option String) : Parse Unit := do
  let t ← peek {}
  match t.kind with
  | .word => shiftAs t "property_identifier" true field
  | .number => shiftAs t "number" true field
  | .privateName => shiftAs t "private_property_identifier" true field
  | .badChar => if t.isQuote then stringLiteral t field else failAt t
  | .punct =>
    if t.text == "[" then
      open_ "computed_property_name" field
      shift t none
      (E ()).assignment (Follow.closedBy ["]"]) none
      expect "]" {} none
      close
    else failAt t
  | _ => failAt t

/-- Reads an array pattern `[a, , b = 1, ...c]`; a `tentative` one, read before it is known to
be a pattern, takes only names and destructuring patterns as its elements. -/
def arrayPattern (tentative : Bool) (field : Option String) : Parse Unit := do
  open_ "array_pattern" field
  expect "[" {} none
  for _ in [0:(← budget)] do
    let t ← peek {}
    if t.isPunct "]" then
      shift t none
      close
      return
    else if t.isPunct "," then shift t none
    else
      (if tentative then (E ()).tentativeElement else (E ()).element) [",", "]"] none
      let u ← peek {}
      if u.isPunct "," then shift u none
      else if u.isPunct "]" then
        shift u none
        close
        return
      else failAt u
  failNext {}

/-- Reads an object pattern `{a, b: c, d = 1, ...e}`; `tentative` as for array patterns. -/
def objectPattern (tentative : Bool) (field : Option String) : Parse Unit := do
  open_ "object_pattern" field
  expect "\x7b" {} none
  for _ in [0:(← budget)] do
    let t ← peek {}
    if t.isPunct "\x7d" then
      shift t none
      close
      return
    else if t.isPunct "," then shift t none
    else
      if t.isPunct "..." then
        open_ "rest_pattern" none
        shift t none
        if tentative then (E ()).pattern none else (E ()).target [",", "\x7d"] none
        close
      else
        propertyName E none
        let v ← peek {}
        if v.isPunct ":" then
          wrap "pair_pattern" (some "key")
          shift v none
          (if tentative then (E ()).tentativeElement else (E ()).element) [",", "\x7d"]
            (some "value")
          close
        else if t.kind == .word && v.isPunct "=" then
          match ← lastChild? with
          | some c => replaceLast (c.renamed "shorthand_property_identifier_pattern")
          | none => pure ()
          wrap "object_assignment_pattern" (some "left")
          shift v none
          (E ()).assignment (Follow.closedBy [",", "\x7d"]) (some "right")
          close
        else if t.kind == .word && (v.isPunct "," || v.isPunct "\x7d") then
          match ← lastChild? with
          | some c => replaceLast (c.renamed "shorthand_property_identifier_pattern")
          | none => pure ()
        else failAt v
      let u ← peek {}
      if u.isPunct "," then shift u none
      else if u.isPunct "\x7d" then
        shift u none
        close
        return
      else failAt u
  failNext {}

/-- Reads a binding pattern: a name, or an array or object pattern (`tentative` as for those). -/
def bindingPattern (tentative : Bool) (field : Option String) : Parse Unit := do
  let t ← peek {}
  match t.kind with
  | .word => shiftAs t "identifier" true field
  | .punct =>
    if t.text == "[" then arrayPattern E tentative field
    else if t.text == "\x7b" then objectPattern E tentative field
    else failAt t
  | _ => failAt t

/-- Reads an element of a parameter list that is not yet known to be one: a rest pattern, or a
name or destructuring pattern with an optional default value ended by one of `closers`. -/
def bindingElement (closers : List String) (field : Option String) : Parse Unit := do
  let t ← peek {}
  if t.isPunct "..." then
    open_ "rest_pattern" field
    shift t none
    bindingPattern E true none
    close
  else
    bindingPattern E true field
    let u ← peek {}
    if u.isPunct "=" then
      wrap "assignment_pattern" (some "left")
      shift u none
      (E ()).assignment (Follow.closedBy closers) (some "right")
      close

/-- Reads a parameter list `( … )`; a `tentative` one, read where an arrow function may begin,
takes only names and destructuring patterns as its parameters. -/
def formalParameters (tentative : Bool) (field : Option String) : Parse Unit := do
  open_ "formal_parameters" field
  expect "(" {} none
  for _ in [0:(← budget)] do
    let t ← peek {}
    if t.isPunct ")" then
      shift t none
      close
      return
    (if tentative then (E ()).tentativeElement else (E ()).element) [",", ")"] none
    let u ← peek {}
    if u.isPunct "," then shift u none
    else if u.isPunct ")" then
      shift u none
      close
      return
    else failAt u
  failNext {}

/-- Reads an argument list `( … )`, spread arguments included. As in array literals, a slot
between two commas may stay empty. -/
def arguments (field : Option String) : Parse Unit := do
  open_ "arguments" field
  expect "(" {} none
  for _ in [0:(← budget)] do
    let t ← peek { operand := true }
    if t.isPunct ")" then
      shift t none
      close
      return
    else if t.isPunct "," then shift t none
    else
      if t.isPunct "..." then
        open_ "spread_element" none
        shift t none
        (E ()).assignment (Follow.closedBy [",", ")"]) none
        close
      else (E ()).assignment (Follow.closedBy [",", ")"]) none
      let u ← peek {}
      if u.isPunct "," then shift u none
      else if u.isPunct ")" then
        shift u none
        close
        return
      else failAt u
  failNext {}

/-- Reads a function from its optional `async` to the end of its body. A declaration names
its node `function_declaration`, an expression `function_expression`; a `*` makes either a
generator. -/
def functionLiteral (declaration : Bool) (field : Option String) : Parse Unit := do
  open_ (if declaration then "function_declaration" else "function_expression") field
  let t ← peek {}
  if t.isWord "async" then shift t none
  expectWord "function" none
  let s ← peek {}
  if s.isPunct "*" then
    retag (if declaration then "generator_function_declaration" else "generator_function")
    shift s none
  let n ← peek {}
  if n.kind == .word then shiftAs n "identifier" true (some "name")
  formalParameters E false (some "parameters")
  (E ()).block (some "body")
  close

/-- Reads decorators `@name`, `@a.b` or `@f(…)`, each filling `field`. -/
def decorators (field : Option String) : Parse Unit := do
  for _ in [0:(← budget)] do
    let t ← peek {}
    if !t.isPunct "@" then return
    open_ "decorator" field
    shift t none
    let n ← peek {}
    if n.kind == .word then shiftAs n "identifier" true none else failAt n
    for _ in [0:(← budget)] do
      let d ← peek {}
      if d.isPunct "." then
        wrap "member_expression" (some "object")
        shift d none
        let p ← peek {}
        if p.kind == .word then shiftAs p "property_identifier" true (some "property")
        else failAt p
        close
      else break
    let a ← peek {}
    if a.isPunct "(" then
      wrap "call_expression" (some "function")
      arguments E (some "arguments")
      close
    close

/-- Reads one member of a class body: a static block, a method or a field. A field ends like a
statement, with `;` or an inferred semicolon, which belongs to the class body. An inferred
semicolon may also stand between `static` and the block of a static block. -/
def classMember : Parse Unit := do
  open_ "field_definition" (some "member")
  decorators E (some "decorator")
  let (t, u) ← peek2 {} { semicolon := some true }
  let blockAfter := u.isPunct "\x7b" || (u.kind == .inferredSemicolon &&
    (scanToken (← read) (← get).assumedRead (← get).shifts {} u.stop).2.isPunct "\x7b")
  if t.isWord "static" && blockAfter then
    retag "class_static_block"
    shift t none
    let s ← peek { semicolon := some true }
    if s.kind == .inferredSemicolon then shift s none
    (E ()).block (some "body")
    close
    return
  let mut method := false
  let mut generator := false
  for _ in [0:4] do
    let (m, v) ← peek2 {} { semicolon := some true }
    let modifier :=
      (m.kind == .word && ["static", "async", "get", "set"].contains m.text
        && (v.startsPropertyName || (v.isPunct "*" && m.text != "get" && m.text != "set")))
    if m.isPunct "*" then
      shift m none
      generator := true
      break
    else if modifier then
      shift m none
      if m.text != "static" then method := true
    else break
  propertyName E none
  let p ← peek { semicolon := some true }
  if p.isPunct "(" then
    retag "method_definition"
    match ← lastChild? with
    | some c => replaceLast (c.withField (some "name"))
    | none => pure ()
    formalParameters E false (some "parameters")
    (E ()).block (some "body")
    close
  else if method || generator then failAt p
  else
    match ← lastChild? with
    | some c => replaceLast (c.withField (some "property"))
    | none => pure ()
    let mut rule := true
    if p.isPunct "=" then
      shift p none
      (E ()).assignment { statementEnd := some false, closers := ["\x7d"] } (some "value")
      rule := false
    close
    let s ← peek { semicolon := some rule }
    if s.isPunct ";" || s.kind == .inferredSemicolon then shift s none else failAt s

/-- Reads a class body `{ … }`. -/
def classBody (field : Option String) : Parse Unit := do
  open_ "class_body" field
  expect "\x7b" {} none
  for _ in [0:(← budget)] do
    let t ← peek {}
    if t.isPunct "\x7d" then
      shift t none
      close
      return
    else if t.isPunct ";" then shift t none
    else classMember E
  failNext {}

/-- Reads a class from its decorators to the end of its body; a declaration names its node
`class_declaration`. -/
def classLiteral (declaration : Bool) (field : Option String) : Parse Unit := do
  open_ (if declaration then "class_declaration" else "class") field
  decorators E (some "decorator")
  expectWord "class" none
  let n ← peek {}
  if n.kind == .word && n.text != "extends" then shiftAs n "identifier" true (some "name")
  let h ← peek {}
  if h.isWord "extends" then
    open_ "class_heritage" none
    shift h none
    (E ()).assignment (Follow.closedBy ["\x7b"]) none
    close
  classBody E (some "body")
  close

/-- Reads one member of an object literal. -/
def objectMember : Parse Unit := do
  let (t, u) ← peek2 {} {}
  if t.isPunct "..." then
    open_ "spread_element" none
    shift t none
    (E ()).assignment { closers := [",", "\x7d"], cover := true } none
    close
  else if t.isPunct "*" || (t.kind == .word && ["get", "set", "async"].contains t.text
      && (u.startsPropertyName || (t.text == "async" && u.isPunct "*"))) then
    open_ "method_definition" none
    shift t none
    if t.isWord "async" && u.isPunct "*" then shift u none
    propertyName E (some "name")
    formalParameters E false (some "parameters")
    (E ()).block (some "body")
    close
  else
    propertyName E none
    let v ← peek {}
    if v.isPunct ":" then
      wrap "pair" (some "key")
      shift v none
      (E ()).assignment { closers := [",", "\x7d"], cover := true } (some "value")
      close
    else if v.isPunct "(" then
      wrap "method_definition" (some "name")
      formalParameters E false (some "parameters")
      (E ()).block (some "body")
      close
    else if t.kind == .word && (v.isPunct "," || v.isPunct "\x7d") then
      match ← lastChild? with
      | some c => replaceLast (c.renamed "shorthand_property_identifier")
      | none => pure ()
    else if t.kind == .word && v.isPunct "=" then
      match ← lastChild? with
      | some c => replaceLast (c.renamed "shorthand_property_identifier_pattern")
      | none => pure ()
      wrap "object_assignment_pattern" (some "left")
      shift v none
      (E ()).assignment (Follow.closedBy [",", "\x7d"]) (some "right")
      close
    else failAt v

/-- Reads an object literal `{ … }`. -/
def objectLiteral (field : Option String) : Parse Unit := do
  open_ "object" field
  expect "\x7b" {} none
  for _ in [0:(← budget)] do
    let t ← peek {}
    if t.isPunct "\x7d" then
      shift t none
      close
      return
    else if t.isPunct "," then shift t none
    else
      objectMember E
      let u ← peek {}
      if u.isPunct "," then shift u none
      else if u.isPunct "\x7d" then
        shift u none
        close
        return
      else failAt u
  failNext {}

/-- Reads an array literal `[ … ]`, holes and spread elements included. -/
def arrayLiteral (field : Option String) : Parse Unit := do
  open_ "array" field
  expect "[" { operand := true } none
  for _ in [0:(← budget)] do
    let t ← peek { operand := true }
    if t.isPunct "]" then
      shift t none
      close
      return
    else if t.isPunct "," then shift t none
    else
      if t.isPunct "..." then
        open_ "spread_element" none
        shift t none
        (E ()).assignment { closers := [",", "]"], cover := true } none
        close
      else (E ()).assignment { closers := [",", "]"], cover := true } none
      let u ← peek {}
      if u.isPunct "," then shift u none
      else if u.isPunct "]" then
        shift u none
        close
        return
      else failAt u
  failNext {}

/-- Reads the body of an arrow function: a block, or an expression ending as `fl` says. -/
def arrowBody (fl : Follow) : Parse Unit := do
  let t ← peek {}
  if t.isPunct "\x7b" then (E ()).block (some "body")
  else (E ()).assignment fl (some "body")

/-- Reads an arrow function with a single parameter name `t`, after an optional `async`. -/
def arrowWithParameter (asyncTok : Option Tok) (t : Tok) (fl : Follow)
    (field : Option String) : Parse Unit := do
  open_ "arrow_function" field
  if let some a := asyncTok then shift a none
  shiftAs t "identifier" true (some "parameter")
  expect "=>" {} none
  arrowBody E fl
  close

/-- Reads `( … )`: the parameters of an arrow function when `=>` follows them, else a
parenthesized expression. When neither reading gets through, the text fails where the one that
got further fails. -/
def parenthesizedOrArrow (asyncTok : Option Tok) (fl : Follow) (field : Option String) :
    Parse Unit := do
  let arrow ← firstOrFurther
    (do
      open_ "arrow_function" field
      if let some a := asyncTok then shift a none
      formalParameters E true (some "parameters")
      expect "=>" {} none
      pure true)
    (do
      match asyncTok with
      | some a => shiftAs a "identifier" true field
      | none =>
        open_ "parenthesized_expression" field
        expect "(" { operand := true } none
        (E ()).expression { closers := [")"], sequence := true } none
        expect ")" {} none
        close
      pure false)
  if arrow then
    arrowBody E fl
    close

/-- Reads `new` with its callee and optional arguments, or `new.target`. -/
def newExpression (field : Option String) : Parse Unit := do
  let (t, u) ← peek2 {} {}
  if u.isPunct "." then
    open_ "meta_property" field
    shift t none
    shift u none
    expectWord "target" none
    close
  else
    open_ "new_expression" field
    shift t none
    (E ()).constructor (some "constructor")
    let a ← peek {}
    if a.isPunct "(" then arguments E (some "arguments")
    close

/-- Reads the primary part of an operand. -/
def primary (fl : Follow) (field : Option String) : Parse Unit := do
  let (t, u) ← peek2 { operand := true } {}
  match t.kind with
  | .number => shiftAs t "number" true field
  | .privateName => shiftAs t "private_property_identifier" true field
  | .badChar => if t.isQuote then stringLiteral t field else failAt t
  | .punct =>
    match t.text with
    | "(" => parenthesizedOrArrow E none fl field
    | "[" => arrayLiteral E field
    | "\x7b" => objectLiteral E field
    | "`" => templateLiteral (E ()).expression t field
    | "/" | "/=" => regexLiteral t field
    | "@" => classLiteral E false field
    | "<" | "<<" | "<=" | "<<=" => (E ()).markup field
    | _ => failAt t
  | .word =>
    if u.isPunct "=>" then arrowWithParameter E none t fl field
    else
      match t.text with
      | "this" | "super" | "true" | "false" | "null" | "undefined" =>
        shiftAs t t.text true field
      | "function" => functionLiteral E false field
      | "class" => classLiteral E false field
      | "new" => newExpression E field
      | "import" =>
        if u.isPunct "." then
          open_ "meta_property" field
          shift t none
          shift u none
          expectWord "meta" none
          close
        else shiftAs t "import" true field
      | "async" =>
        if u.isWord "function" then functionLiteral E false field
        else if u.kind == .word then
          let v := (scanToken (← read) (← get).assumedRead (← get).shifts {} u.stop).2
          if v.isPunct "=>" then arrowWithParameter E (some t) u fl field
          else shiftAs t "identifier" true field
        else if u.isPunct "(" then parenthesizedOrArrow E (some t) fl field
        else shiftAs t "identifier" true field
      | _ => shiftAs t "identifier" true field
  | _ => failAt t

/-- Reads the name after `.` or `?.`. -/
def memberProperty : Parse Unit := do
  let p ← peek {}
  match p.kind with
  | .word => shiftAs p "property_identifier" true (some "property")
  | .privateName => shiftAs p "private_property_identifier" true (some "property")
  | _ => failAt p

/-- Reads the tail of an operand: member accesses, optional chains, subscripts, calls,
tagged templates and postfix updates. -/
def operandTail (fl : Follow) : Parse Unit := do
  for _ in [0:(← budget)] do
    let t ← peek (fl.want false)
    if t.isPunct "." then
      wrap "member_expression" (some "object")
      shift t none
      memberProperty
      close
    else if t.isPunct "?." then
      let u := (scanToken (← read) (← get).assumedRead (← get).shifts {} t.stop).2
      if u.isPunct "(" then
        wrap "call_expression" (some "function")
        shiftAs t "optional_chain" true (some "optional_chain")
        arguments E (some "arguments")
        close
      else if u.isPunct "[" then
        wrap "subscript_expression" (some "object")
        shiftAs t "optional_chain" true (some "optional_chain")
        shift u none
        (E ()).expression { closers := ["]"], sequence := true } (some "index")
        expect "]" {} none
        close
      else
        wrap "member_expression" (some "object")
        shiftAs t "optional_chain" true (some "optional_chain")
        memberProperty
        close
    else if t.isPunct "[" then
      wrap "subscript_expression" (some "object")
      shift t none
      (E ()).expression { closers := ["]"], sequence := true } (some "index")
      expect "]" {} none
      close
    else if t.isPunct "(" then
      wrap "call_expression" (some "function")
      arguments E (some "arguments")
      close
    else if t.isPunct "`" then
      wrap "call_expression" (some "function")
      templateLiteral (E ()).expression t (some "arguments")
      close
    else if t.isPunct "++" || t.isPunct "--" then
      wrap "update_expression" (some "argument")
      shift t (some "operator")
      close
    else return

/-- Reads `yield`, an optional `*` and an optional operand. -/
def yieldExpression (fl : Follow) (field : Option String) : Parse Unit := do
  open_ "yield_expression" field
  let t ← peek {}
  shift t none
  let s ← peek { operand := true, semicolon := fl.statementEnd }
  if s.isPunct "*" then
    shift s none
    (E ()).assignment fl none
  else if s.startsExpression then (E ()).assignment fl none
  else if !fl.admits s then failAt s
  close

/-- Reads an operand with its prefix operators and its tail, then checks that the next token
continues or ends it. Answers whether the operand, standing alone at the start of an
assignment, may be assigned to, and whether it may be updated by a compound assignment. -/
def operand (fl : Follow) (assignStart : Bool) (field : Option String) :
    Parse (Bool × Bool) := do
  let mut depth := 0
  let mut fld := field
  let mut start := assignStart
  for _ in [0:(← budget)] do
    let t ← peek { operand := true }
    match prefixNode? t with
    | some kind =>
      open_ kind fld
      let await := kind == "await_expression"
      shift t (if await then none else some "operator")
      fld := if await then none else some "argument"
      start := false
      depth := depth + 1
    | none => break
  let t ← peek { operand := true }
  let mut targets := (false, false)
  if t.isWord "yield" then yieldExpression E fl fld
  else
    primary E fl fld
    let prim ← lastChild?
    if (prim.map Node.needsPattern).getD false then
      -- only a pattern may hold `name = value`: the literal stands alone, before `=` or
      -- where the construct around it may still become a pattern
      let shaped := (prim.map Node.isPatternShaped).getD false
      let u ← peek (fl.want false)
      if !(depth == 0 && shaped && (start && u.isPunct "=" || fl.endsCover u)) then failAt u
      targets := (start, false)
    else
      operandTail E fl
      let last ← lastChild?
      let assignable := start && (last.map fun c => assignTargets.contains c.kind &&
        (c.kind != "object" && c.kind != "array" || c.isPatternShaped)).getD false
      let compound := start && (last.map fun c => updateTargets.contains c.kind).getD false
      let u ← peek (fl.want compound)
      let ok := fl.admits u || (assignable && u.isPunct "=")
        || (compound && u.kind == .punct && compoundAssignments.contains u.text)
      if !ok then failAt u
      targets := (assignable, compound)
  for _ in [0:depth] do close
  return targets

/-- Reads the callee of `new`: an operand with member accesses and subscripts but no call. -/
def constructorOperand (field : Option String) : Parse Unit := do
  let t ← peek { operand := true }
  if t.isWord "new" then newExpression E field
  else
    primary E {} field
    for _ in [0:(← budget)] do
      let d ← peek {}
      if d.isPunct "." then
        wrap "member_expression" (some "object")
        shift d none
        memberProperty
        close
      else if d.isPunct "[" then
        wrap "subscript_expression" (some "object")
        shift d none
        (E ()).expression { closers := ["]"], sequence := true } (some "index")
        expect "]" {} none
        close
      else break

/-- Reads operands joined by binary operators; the frames of the operators still open are the
pending operators. Answers as `operand` does when no operator was read. -/
def binary (fl : Follow) (assignStart : Bool) (field : Option String) :
    Parse (Bool × Bool) := do
  let targets ← operand E fl assignStart field
  let mut pending : List Nat := []
  let mut first := true
  for _ in [0:(← budget)] do
    let t ← peek (fl.want (first && targets.2))
    match t.binaryOperator? fl.noIn with
    | none => break
    | some (_, p) =>
      let rightward := t.text == "**"
      let closing := pending.takeWhile fun q => if rightward then q > p else q ≥ p
      for _ in closing do close
      pending := pending.drop closing.length
      wrap "binary_expression" (some "left")
      shift t (some "operator")
      pending := p :: pending
      first := false
      let _ ← operand E fl false (some "right")
  for _ in pending do close
  return if first then targets else (false, false)

/-- Reads a conditional expression `a ? b : c`, or what `binary` reads. -/
def conditional (fl : Follow) (assignStart : Bool) (field : Option String) :
    Parse (Bool × Bool) := do
  let targets ← binary E fl assignStart field
  let t ← peek (fl.want targets.2)
  if t.isPunct "?" then
    wrap "ternary_expression" (some "condition")
    shift t none
    (E ()).assignment Follow.consequence (some "consequence")
    expect ":" {} none
    (E ()).assignment fl (some "alternative")
    close
    return (false, false)
  return targets

/-- Reads what may follow `...` in a pattern, up to one of `closers` or `=`: an expression that
ends as a name, a member access, a subscript, or an object or array whose parts are patterns
(read as such). Any expression may begin here, as the object of a member access; one that
does not end as a pattern fails at the token after it. -/
def lhsTarget (closers : List String) (field : Option String) : Parse Unit := do
  let _ ← conditional E { closers := "=" :: closers, cover := true } false field
  match ← lastChild? with
  | some c =>
    if c.isPatternShaped then replaceLast c.asPattern
    else failAt (← peek {})
  | none => failNext {}

/-- Reads an element of a parameter list or of a destructuring pattern: a rest pattern, or a
target (as `lhsTarget` reads it) with an optional default value, ended by one of
`closers`. -/
def patternElement (closers : List String) (field : Option String) : Parse Unit := do
  let t ← peek {}
  if t.isPunct "..." then
    open_ "rest_pattern" field
    shift t none
    lhsTarget E closers none
    close
  else
    lhsTarget E closers field
    let u ← peek {}
    if u.isPunct "=" then
      wrap "assignment_pattern" (some "left")
      shift u none
      (E ()).assignment (Follow.closedBy closers) (some "right")
      close

/-- Reads an expression without a comma at its top: a conditional, possibly assigned to. -/
def assignment (fl : Follow) (field : Option String) : Parse Unit := do
  let (assignable, compound) ← conditional E fl true field
  let t ← peek (fl.want compound)
  if assignable && t.isPunct "=" then
    match ← lastChild? with
    | some c => replaceLast c.asPattern
    | none => pure ()
    wrap "assignment_expression" (some "left")
    shift t none
    (E ()).assignment fl (some "right")
    close
  else if compound && t.kind == .punct && compoundAssignments.contains t.text then
    wrap "augmented_assignment_expression" (some "left")
    shift t (some "operator")
    (E ()).assignment fl (some "right")
    close

/-- Reads an expression, with comma sequences where `fl` allows them. -/
def expression (fl : Follow) (field : Option String) : Parse Unit := do
  assignment E fl field
  if fl.sequence then
    let t ← peek (fl.want false)
    if t.isPunct "," then
      wrap "sequence_expression" none
      for _ in [0:(← budget)] do
        let u ← peek (fl.want false)
        if u.isPunct "," then
          shift u none
          assignment E fl none
        else break
      close

end

end PluginLens.Syntax
