import PluginLens.Syntax.Context

/-!
# Literals with an inner structure

Strings, templates and regular expressions are read character by character after their
opening token: their pieces (fragments, escape sequences, substitutions) are tokens of their
own that follow each other with no blanks or comments between them.
-/

namespace PluginLens.Syntax

open PluginLens.Text Parse

def Tok.isQuote (t : Tok) : Bool :=
  t.kind == .badChar && (t.text == "\"" || t.text == "'")

/-- Moves past text that error recovery skips at the reading position, if any; answers
whether it did. -/
def passSkipped : Parse Bool := do
  let i := (← get).pos
  match (← read).repairs.skipped.find? (·.1 == i) with
  | some (_, e) =>
    modify fun st => { st with pos := e }
    return true
  | none => return false

/-- After text skipped by error recovery inside a literal, reading resumes only at a token
that ends the literal or opens a piece of it that is read without context (`accepts`),
after any blanks; fragments of the literal are not such tokens. -/
def resumeAfterSkipped (accepts : Nat → Bool) : Parse Unit := do
  let src ← source
  let i := (← get).pos
  let j := skipWhile src isSyntaxBlank i
  if (← read).repairs.skipped.any (·.1 == j) || (!src.atEnd j && accepts j) then
    modify fun st => { st with pos := j }
  else failNext {}

/-- Reads a string literal whose opening quote is `tok`: fragments and escape sequences up to
the matching quote. Fragments do not cross a line break; after one, only blanks may stand
before the closing quote, and anything else stops the reading, as does the end of the
text. -/
def stringLiteral (tok : Tok) (field : Option String) : Parse Unit := do
  let src ← source
  let q := src.charAt tok.start
  open_ "string" field
  shift tok none
  for _ in [0:(← budget)] do
    if ← passSkipped then
      resumeAfterSkipped fun j => src.charAt j == q
      continue
    let i := (← get).pos
    let c := src.charAt i
    if src.atEnd i then failNext {}
    else if c == '\n' || c == '\r' then
      -- after a line break only blanks and the closing quote may follow
      let j := skipWhile src isSyntaxBlank i
      if src.charAt j == q && !src.atEnd j then
        shiftSpan (String.singleton q) false none j (j + 1)
        close
        return
      else if (← read).repairs.skipped.any (·.1 == j) then
        modify fun st => { st with pos := j }
      else failNext {}
    else if c == q then
      shiftSpan (String.singleton q) false none i (i + 1)
      close
      return
    else if c == '\\' then
      match escapeEnd? src i with
      | some e => shiftSpan "escape_sequence" true none i e
      | none => failNext {}
    else
      shiftSpan "string_fragment" true none i (stringFragmentEnd src q i)
  failNext {}

/-- Reads the rest of a template literal whose opening backquote is `tok`; substitutions are
read by `inner`. -/
def templateLiteral (inner : Follow → Option String → Parse Unit) (tok : Tok)
    (field : Option String) : Parse Unit := do
  let src ← source
  open_ "template_string" field
  shift tok none
  for _ in [0:(← budget)] do
    if ← passSkipped then
      resumeAfterSkipped fun j => src.charAt j == '`' || (src.charAt j == '$' && src.charAt (j + 1) == '{')
      continue
    let i := (← get).pos
    let c := src.charAt i
    if src.atEnd i then
      failNext {}
    else if c == '`' then
      shiftSpan "`" false none i (i + 1)
      close
      return
    else if c == '\\' then
      match escapeEnd? src i with
      | some e => shiftSpan "escape_sequence" true none i e
      | none => failNext {}
    else if c == '$' && src.charAt (i + 1) == '{' then
      open_ "template_substitution" none
      shiftSpan "$\x7b" false none i (i + 2)
      inner { closers := ["\x7d"], sequence := true } none
      expect "\x7d" {} none
      close
    else
      match templateCharsEnd? src i with
      | some e => shiftSpan "string_fragment" true none i e
      | none => failNext {}
  failNext {}

/-- Reads a regular expression whose opening slash starts token `tok`: the pattern, the
closing slash and lower-case flags. -/
def regexLiteral (tok : Tok) (field : Option String) : Parse Unit := do
  let src ← source
  open_ "regex" field
  shift { tok with text := "/", stop := tok.start + 1 } none
  let b := tok.start + 1
  let e := regexBodyEnd src b
  if e == b then failNext {}
  shiftSpan "regex_pattern" true (some "pattern") b e
  if src.charAt e != '/' || src.atEnd e then failNext {}
  shiftSpan "/" false none e (e + 1)
  let f := skipWhile src (fun c => 'a' ≤ c && c ≤ 'z') (e + 1)
  if f > e + 1 then shiftSpan "regex_flags" true (some "flags") (e + 1) f
  close

end PluginLens.Syntax
