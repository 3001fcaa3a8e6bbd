import PluginLens.Syntax.Literal
import PluginLens.Syntax.Pattern

/-!
# Markup elements

Element syntax inside expressions: `<Tag attr="v" {...rest}>children</Tag>`, the
self-closing `<Tag />` and the fragment `<>…</>`.

* A tag name is a name, a name with dashes (`data-x`), a dotted name (`A.B.C`, read as
  member expressions) or a `ns:name` pair. Closing tags are not matched against opening
  tags, and a fragment's closing tag `</>` has no name.
* An attribute is a name with an optional value after `=`: a quoted string (no escapes,
  character references allowed), an expression in braces, or an element. An expression in
  braces may also stand alone among the attributes, as in `{...rest}`.
* The children are runs of text, character references such as `&amp;`, expressions in
  braces (possibly empty, or holding only a comment) and nested elements. What begins at
  the reading position decides which (`ChildStart`). A run of text ends at `<`, `>`, `{`,
  `}` or `&`; a run made only of blanks that start with a line break is no text at all.

Nested elements are read through the `markup` entry point of the level below, so the
nesting is bounded like every other construct.
-/

namespace PluginLens.Syntax

open PluginLens.Text Parse

/-- End of a run of text among an element's children at `i`, and whether it is text: it holds
a character other than a blank, or a blank that does not follow a line break. -/
def markupTextEnd (src : Source) (i : Nat) : Nat × Bool :=
  go (src.size - i + 1) i false false
where
  go : Nat → Nat → Bool → Bool → Nat × Bool
    | 0, j, saw, _ => (j, saw)
    | fuel + 1, j, saw, afterBreak =>
      let c := src.charAt j
      if src.atEnd j || "\x00<>\x7b\x7d&".toList.contains c then (j, saw)
      else if c == '\n' then go fuel (j + 1) saw true
      else
        let afterBreak := afterBreak && isAsciiSpace c
        go fuel (j + 1) (saw || !afterBreak) afterBreak

/-- End of a character reference at `i`: `&name;` with up to 30 letters, `&#digits;` with up
to 5 digits or `&#xhex;` with up to 6 hexadecimal digits. -/
def characterReferenceEnd? (src : Source) (i : Nat) : Option Nat :=
  if src.charAt i != '&' || src.atEnd i then none
  else if src.charAt (i + 1) == '#' then
    let hex := src.charAt (i + 2) == 'x' || src.charAt (i + 2) == 'X'
    let first := if hex then i + 3 else i + 2
    let e := skipWhile src (if hex then isHex else Char.isDigit) first
    let most := if hex then 6 else 5
    if first < e && e - first ≤ most && src.charAt e == ';' && !src.atEnd e then some (e + 1)
    else none
  else
    let e := skipWhile src (fun c => c.isAlpha) (i + 1)
    if i + 1 < e && e - (i + 1) ≤ 30 && src.charAt e == ';' && !src.atEnd e then some (e + 1)
    else none

/-- End of a name in a tag at the end `e` of a word: a dash continues it with letters, digits,
`_`, `$` and further dashes. -/
def dashedNameEnd (src : Source) (e : Nat) : Nat :=
  if src.charAt e == '-' && !src.atEnd e then
    skipWhile src (fun c => c.isAlphanum || c == '_' || c == '$' || c == '-') e
  else e

/-- End of a run of a quoted attribute value's characters at `i`: anything but the quote `q`
and `&`, where an `&` not followed by `#` or a letter belongs to the run. -/
def attributeFragmentEnd (src : Source) (q : Char) (i : Nat) : Nat :=
  go (src.size - i + 1) i
where
  go : Nat → Nat → Nat
    | 0, j => j
    | fuel + 1, j =>
      let c := src.charAt j
      if src.atEnd j || c == q then j
      else if c == '&' then
        let d := src.charAt (j + 1)
        if src.atEnd (j + 1) || d == '#' || d.isAlpha then j else go fuel (j + 2)
      else go fuel (j + 1)

/-- What begins at the reading position among an element's children. -/
inductive ChildStart where
  | text (stop : Nat)
  | closing
  | element
  | expression
  | reference (stop : Nat)
  | other

/-- Classifies what begins among an element's children: text right at the position `i`, else
what the next token `t` starts. -/
def childStart (src : Source) (i : Nat) (t : Tok) : ChildStart :=
  let (e, isText) := markupTextEnd src i
  if isText && i < e then .text e
  else
    let c := src.charAt t.start
    if t.kind == .eof then .other
    else if c == '<' then (if src.charAt (t.start + 1) == '/' then .closing else .element)
    else if c == '\x7b' then .expression
    else if c == '&' then
      match characterReferenceEnd? src t.start with
      | some e => .reference e
      | none => .other
    else .other

section

variable (E : Unit → Entries)

def shiftChars (t : Tok) (text : String) : Parse Unit :=
  if t.assumed then shift t none
  else shift { t with kind := .punct, text, stop := t.start + text.length } none

/-- Reads a tag name filling `field`, with a name node of kind `kind`: a dashed name, a
`ns:name` pair or, for element names, a dotted name. -/
def markupName (kind : String) (dotted : Bool) (field : Option String) : Parse Unit := do
  let src ← source
  let t ← peek {}
  if t.kind != .word then failAt t
  shiftAs { t with stop := dashedNameEnd src t.stop } kind true field
  let u ← peek {}
  if u.isPunct ":" then
    match ← lastChild? with
    | some c => replaceLast (c.renamed "identifier")
    | none => pure ()
    wrap "jsx_namespace_name" none
    shift u none
    let v ← peek {}
    if v.kind != .word then failAt v
    shiftAs { v with stop := dashedNameEnd src v.stop } "identifier" true none
    close
  else if dotted then
    for _ in [0:(← budget)] do
      let d ← peek {}
      if !d.isPunct "." then break
      wrap "member_expression" (some "object")
      shift d none
      let p ← peek {}
      if p.kind != .word then failAt p
      shiftAs p "property_identifier" true (some "property")
      close

/-- Reads an expression in braces `{ … }`: empty, an expression, a comma sequence or a spread
element. -/
def markupExpression (field : Option String) : Parse Unit := do
  open_ "jsx_expression" field
  expect "\x7b" {} none
  let t ← peek { operand := true }
  if t.isPunct "..." then
    open_ "spread_element" none
    shift t none
    (E ()).assignment (Follow.closedBy ["\x7d"]) none
    close
  else if !t.isPunct "\x7d" then
    (E ()).expression { closers := ["\x7d"], sequence := true } none
  expect "\x7d" {} none
  close

/-- Reads a quoted attribute value as a string: fragments and character references up to the
matching quote. -/
def markupString (tok : Tok) : Parse Unit := do
  let src ← source
  let q := src.charAt tok.start
  open_ "string" none
  shift tok none
  for _ in [0:(← budget)] do
    if ← passSkipped then
      resumeAfterSkipped fun j => src.charAt j == q
      continue
    let i := (← get).pos
    let c := src.charAt i
    if src.atEnd i then failNext {}
    else if c == q then
      shiftSpan (String.singleton q) false none i (i + 1)
      close
      return
    else if c == '&' then
      match characterReferenceEnd? src i with
      | some e => shiftSpan "html_character_reference" true none i e
      | none => failNext {}
    else shiftSpan "string_fragment" true none i (attributeFragmentEnd src q i)
  failNext {}

/-- Reads the attributes of a tag up to its `>` or `/>`. -/
def markupAttributes : Parse Unit := do
  let src ← source
  for _ in [0:(← budget)] do
    let t ← peek {}
    let c := src.charAt t.start
    if t.kind == .eof || t.isPunct "/>" || t.isPunct ">" || c == '>' ||
        (c == '/' && src.charAt (t.start + 1) == '>')
    then return
    if t.isPunct "\x7b" then markupExpression E (some "attribute")
    else if t.kind == .word then
      open_ "jsx_attribute" (some "attribute")
      markupName "property_identifier" false none
      -- an attribute name stays a leaf of its attribute: `=` is read right after it
      if t.assumed then
        modify fun st => { st with trace := st.trace.map ({ · with folded := false }) }
      let e ← peek {}
      if src.charAt e.start == '=' && e.kind == .punct then
        shiftChars e "="
        let v ← peek { operand := true }
        if v.isQuote then markupString v
        else if v.isPunct "\x7b" then markupExpression E none
        else if src.charAt v.start == '<' && v.kind == TokKind.punct then (E ()).markup none
        else failAt v
      close
    else failAt t

/-- Reads the children of an element up to its closing tag. -/
def markupChildren : Parse Unit := do
  let src ← source
  for _ in [0:(← budget)] do
    if ← passSkipped then continue
    let i := (← get).pos
    let t ← peek {}
    match childStart src i t with
    | .text e => shiftSpan "jsx_text" true none i e
    | .closing => return
    | .element => (E ()).markup none
    | .expression => markupExpression E none
    | .reference e => shiftAs { t with stop := e } "html_character_reference" true none
    | .other => failAt t
  failNext {}

/-- Reads a closing tag `</name>` or `</>`. -/
def markupClosing : Parse Unit := do
  let src ← source
  open_ "jsx_closing_element" (some "close_tag")
  let t ← peek {}
  shiftChars t "</"
  let n ← peek {}
  if n.kind == .word then markupName "identifier" true (some "name")
  let g ← peek {}
  if g.isPunct ">" || src.charAt g.start == '>' && g.kind == .punct then shiftChars g ">"
  else failAt g
  close

/-- Reads an element: a self-closing one, or an opening tag, the children and a closing tag;
`<>` opens a fragment. -/
def markupElement (field : Option String) : Parse Unit := do
  let src ← source
  open_ "jsx_opening_element" field
  let lt ← peek { operand := true }
  shiftChars lt "<"
  let n ← peek {}
  let named := n.kind == .word
  if named then
    markupName "identifier" true (some "name")
    markupAttributes E
  let e ← peek {}
  if named && (e.isPunct "/>" ||
      e.kind == .punct && src.charAt e.start == '/' && src.charAt (e.start + 1) == '>')
  then
    retag "jsx_self_closing_element"
    shiftChars e "/>"
    close
  else if e.isPunct ">" || e.kind == .punct && src.charAt e.start == '>' then
    shiftChars e ">"
    close
    wrap "jsx_element" (some "open_tag")
    markupChildren E
    markupClosing
    close
  else failAt e

end

end PluginLens.Syntax
