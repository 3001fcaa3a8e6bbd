import PluginLens.Syntax.Reader

/-!
# What surrounds a construct

A reading of JavaScript is driven by two pieces of context. `Follow` says which tokens may
come right after an expression in the construct around it: reading stops at the first token
that neither continues the expression nor ends it there, which is where a table-driven
reader would stop too, with the same pieces read. `Entries` is the record of the
constructs that nest (expressions, patterns, blocks, statements); each layer of the grammar
is written against the record of the layer below, and the layers are tied together by a
depth bound, so every definition is plainly total.
-/

namespace PluginLens.Syntax

/-- The tokens that may follow an expression in the construct around it. -/
structure Follow where
  /-- Punctuators that end the expression, such as `)` or `:`. -/
  closers : List String := []
  /-- The statement may end here; the value is the comment rule of an inferred semicolon. -/
  statementEnd : Option Bool := none
  /-- A comma continues a sequence expression. -/
  sequence : Bool := false
  /-- `in` ends the expression instead of being an operator (the head of a loop). -/
  noIn : Bool := false
  /-- `in` and `of` end the expression (the left side of a loop head). -/
  loopWords : Bool := false
  /-- An object or array literal ending here may still be read again as a pattern: an element
  of an array or object literal, a target in a parameter list, the left side of a loop head. -/
  cover : Bool := false
  deriving Inhabited

/-- Binding strength of a binary operator (higher binds tighter), with `??` weakest. -/
def binaryStrength (op : String) : Option Nat :=
  match op with
  | "??" => some 1
  | "||" => some 2
  | "&&" => some 3
  | "|" => some 4
  | "^" => some 5
  | "&" => some 6
  | "==" | "!=" | "===" | "!==" => some 7
  | "<" | ">" | "<=" | ">=" | "instanceof" | "in" => some 8
  | "<<" | ">>" | ">>>" => some 9
  | "+" | "-" => some 10
  | "*" | "/" | "%" => some 11
  | "**" => some 12
  | _ => none

/-- The binary operator a token stands for, if any, where `in` may be excluded. -/
def Tok.binaryOperator? (t : Tok) (noIn : Bool) : Option (String × Nat) :=
  match t.kind with
  | .punct => (binaryStrength t.text).map (t.text, ·)
  | .word =>
    if t.text == "instanceof" || (t.text == "in" && !noIn) then
      (binaryStrength t.text).map (t.text, ·)
    else none
  | _ => none

/-- Whether a token may follow a finished expression in context `fl`. -/
def Follow.admits (fl : Follow) (t : Tok) : Bool :=
  match t.kind with
  | .inferredSemicolon => fl.statementEnd.isSome
  | .punct =>
    (binaryStrength t.text).isSome || t.text == "?" || fl.closers.contains t.text
      || (t.text == ";" && fl.statementEnd.isSome) || (t.text == "," && fl.sequence)
  | .word =>
    t.text == "instanceof" || (t.text == "in" && !fl.noIn)
      || (fl.loopWords && (t.text == "in" || t.text == "of"))
  | _ => false

/-- Whether a literal that only a pattern reading makes valid may end before token `t` in
context `fl`: where the construct around it may still become a pattern, and `t` ends it. -/
def Follow.endsCover (fl : Follow) (t : Tok) : Bool :=
  fl.cover && match t.kind with
    | .punct => fl.closers.contains t.text
    | .word => fl.loopWords && (t.text == "in" || t.text == "of")
    | _ => false

def Follow.want (fl : Follow) (assign : Bool) : Want :=
  { operand := false, assign, semicolon := fl.statementEnd, condition := true }

def Follow.statement (rule : Bool) : Follow :=
  { statementEnd := some rule, sequence := true }

def Follow.closedBy (closers : List String) : Follow := { closers }

def Follow.consequence : Follow := { closers := [":"] }

/-- Entry points of the constructs that nest; each takes the field its node fills. -/
structure Entries where
  /-- An expression, comma sequences included. -/
  expression : Follow → Option String → Parse Unit
  /-- An expression without a comma at its top. -/
  assignment : Follow → Option String → Parse Unit
  /-- The callee of `new`: an operand with member accesses and no calls. -/
  constructor : Option String → Parse Unit
  /-- A binding pattern: a name or a destructuring pattern. -/
  pattern : Option String → Parse Unit
  /-- A pattern with an optional default value, as in a parameter list, ended by one of the
  given tokens. -/
  element : List String → Option String → Parse Unit
  /-- A pattern with an optional default value read while it is not yet known to be one, as in
  the parameters an arrow function may have: only names and destructuring patterns. -/
  tentativeElement : List String → Option String → Parse Unit
  /-- What may follow `...` in a pattern: a name, a member access, a subscript or a
  destructuring pattern, ended by one of the given tokens. -/
  target : List String → Option String → Parse Unit
  /-- A block `{ … }` of statements. -/
  block : Option String → Parse Unit
  /-- A statement. -/
  statement : Option String → Parse Unit
  /-- A markup element `<Tag …>…</Tag>`. -/
  markup : Option String → Parse Unit

namespace Parse

def failNext {α : Type} (want : Want) : Parse α := do
  failAt (← peek want)

/-- Reads the punctuator `p` as an anonymous token, or fails at whatever stands there. -/
def expect (p : String) (want : Want) (field : Option String) : Parse Unit := do
  let t ← peek want
  if t.kind == .punct && t.text == p then shift t field
  else failAt t

def expectWord (w : String) (field : Option String) : Parse Unit := do
  let t ← peek {}
  if t.kind == .word && t.text == w then shift t field else failAt t

/-- The next token and the one after it. -/
def peek2 (want want2 : Want) : Parse (Tok × Tok) := do
  let t ← peek want
  let st ← get
  let env ← read
  let used := if t.assumed then st.assumedRead + 1 else st.assumedRead
  let u := (scanToken env used (st.shifts + 1) want2 t.stop).2
  return (t, u)

/-- An upper bound on the steps of any loop over the rest of the text: every step reads at
least one character. -/
def budget : Parse Nat := do
  return (← source).size - (← get).pos + 2

end Parse

def Tok.isPunct (t : Tok) (p : String) : Bool :=
  t.kind == .punct && t.text == p

def Tok.isWord (t : Tok) (w : String) : Bool := t.kind == .word && t.text == w

end PluginLens.Syntax
