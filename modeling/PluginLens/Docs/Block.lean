import PluginLens.Text.Source

/-!
# Documentation blocks

The text of a `/** … */` block, read as a description followed by tags. Each line loses its
leading blanks, one `*` and the one space after it, and its trailing blanks. A line whose
text starts with `@` opens a tag: the word after `@` is its title, the rest of the line its
value. Lines after a tag continue its value; lines before the first tag form the
description. Values and the description are trimmed as a whole.

Tag values have a small syntax of their own: a leading `{Type}` (balanced braces) names
types separated by `|`, a parameter's name may be written `[name=default]` to make it
optional, and a description may be introduced by `- `.
-/

namespace PluginLens.Docs

open PluginLens.Text

/-- The lines of a text: split at line feeds, a carriage return before one dropped, and no
empty line after a final line feed. -/
def textLines (s : String) : List String :=
  if s.isEmpty then []
  else
    let parts := (s.toList.splitOn '\n').map String.ofList
    let parts := if s.endsWith "\n" then parts.dropLast else parts
    parts.map fun l => if l.endsWith "\r" then (l.dropEnd 1).toString else l

/-- Splits a text at its first `White_Space` character, which belongs to neither side. -/
def splitAtBlank (s : String) : Option (String × String) :=
  let cs := s.toList
  match cs.findIdx? isWhite with
  | some i => some (String.ofList (cs.take i), String.ofList (cs.drop (i + 1)))
  | none => none

def firstWord (s : String) : Option String :=
  let w := (s.toList.dropWhile isWhite).takeWhile (fun c => !isWhite c)
  if w.isEmpty then none else some (String.ofList w)

/-- One line of a block, read. -/
inductive BlockLine where
  | tag (title value : String)
  | text (line : String)
  deriving DecidableEq, Inhabited, Repr

/-- Reads a line: drops leading blanks, a `*` with one space after it, and trailing blanks;
then an `@` (after any blanks) opens a tag. -/
def BlockLine.read (raw : String) : BlockLine :=
  let trimmed := trimStartWhite raw
  let line :=
    if trimmed.startsWith "*" then
      let rest := (trimmed.drop 1).toString
      if rest.startsWith " " then (rest.drop 1).toString else rest
    else trimmed
  let line := trimEndWhite line
  let lead := trimStartWhite line
  if lead.startsWith "@" then
    let rest := (lead.drop 1).toString
    match splitAtBlank rest with
    | some (title, value) => .tag title (trimWhite value)
    | none => .tag rest ""
  else .text line

/-- A read block: its description and its tags with their values, in order. -/
structure DocBlock where
  description : String
  tags : List (String × String)
  deriving DecidableEq, Inhabited, Repr

/-- Lines gathered so far: description lines, and tags newest first, each with its lines. -/
structure Gathered where
  description : List String
  tags : List (String × List String)
  deriving Inhabited

/-- Adds one line: a tag opens a new entry, text continues the newest tag or, before any
tag, the description. -/
def Gathered.add (g : Gathered) : BlockLine → Gathered
  | .tag title value => { g with tags := (title, [value]) :: g.tags }
  | .text line =>
    match g.tags with
    | [] => { g with description := g.description ++ [line] }
    | (title, lines) :: older => { g with tags := (title, lines ++ [line]) :: older }

def joinTrimmed (lines : List String) : String := trimWhite ("\n".intercalate lines)

/-- Reads the text between `/*` and `*/` of a documentation block. -/
def DocBlock.parse (text : String) : DocBlock :=
  let body := if text.startsWith "*" then (text.drop 1).toString else text
  let g := (textLines body).foldl (fun (g : Gathered) raw => g.add (BlockLine.read raw)) ⟨[], []⟩
  { description := joinTrimmed g.description
    tags := g.tags.reverse.map fun (t, ls) => (t, joinTrimmed ls) }

abbrev TypeNames := List String

def charIndices (s : String) : List (Nat × Char) := (offsetsFrom 0 s.toList).zip s.toList

/-- How the count of braces over a value ends. -/
inductive BraceScan where
  | closesAt (offset : Nat)
  | unclosed
  | underflow
  deriving DecidableEq, Repr

/-- Counts braces over characters with their offsets, starting from `depth`: a `{` adds one, a
`}` takes one away, and the count stops at the `}` that leaves zero. -/
def scanBraces : Nat → List (Nat × Char) → BraceScan
  | _, [] => .unclosed
  | depth, (i, c) :: rest =>
    if c == '{' then scanBraces (depth + 1) rest
    else if c == '}' then
      if depth = 0 then .underflow
      else if depth - 1 = 0 then .closesAt i
      else scanBraces (depth - 1) rest
    else scanBraces depth rest

def trimParens (cs : List Char) : List Char :=
  let isParen := fun c => c == '(' || c == ')'
  ((cs.dropWhile isParen).reverse.dropWhile isParen).reverse

/-- The names written between the braces of a type: without parentheses at either end, split
at `|`, each trimmed, and the empty ones dropped. -/
def typeNames (inner : String) : TypeNames :=
  (((String.ofList (trimParens inner.toList)).splitOn "|").map trimWhite).filter (!·.isEmpty)

/-- Splits a leading `{Type}` off a value as the count of braces finds it: at the `}` that
closes the first `{`, the bytes between the two braces give the type names and the bytes after
it, without leading blanks, the rest. `none` where the program would stop instead: a `}` that
takes the count below zero, or a slice whose ends cut a character. -/
def splitType? (value : String) : Option (Option TypeNames × String) :=
  if value.toList.head? = some '{' then
    match scanBraces 0 (charIndices value) with
    | .closesAt i =>
      let src := Source.ofString value
      match src.slice? 1 i, src.slice? (i + 1) src.byteSize with
      | some inner, some rest => some (some (typeNames inner), trimStartWhite rest)
      | _, _ => none
    | .unclosed => some (none, value)
    | .underflow => none
  else some (none, value)

/-- Splits a leading `{Type}` off a value: the type names (split at `|`, trimmed, empty
ones dropped, surrounding parentheses ignored) and the rest without leading blanks. A value
without balanced braces at its start has no type. The count never stops the program, so the
fallback to the value as it is only stands for a case that does not arise. -/
def splitType (value : String) : Option TypeNames × String :=
  (splitType? value).getD (none, value)

def stripDash (description : String) : String :=
  let d := trimWhite description
  trimWhite (if d.startsWith "- " then (d.drop 2).toString else d)

/-- A documented parameter or property. -/
structure ParamDoc where
  type? : Option TypeNames
  optional : Bool
  default? : Option String
  description? : Option String
  name : String
  deriving DecidableEq, Inhabited, Repr

/-- A documented result or exception. -/
structure TypedDoc where
  type? : Option TypeNames
  description? : Option String
  deriving DecidableEq, Inhabited, Repr

def nonEmpty (d : String) : Option String := if d.isEmpty then none else some d

/-- Reads `{T} [name=default] - description` or `{T} name description`. In brackets the
name ends at the first `=` (what follows is the default) or at `]`, and the description
starts after the `]`. -/
def ParamDoc.parse (value : String) : ParamDoc :=
  let (type?, rest) := splitType value
  let rest := trimStartWhite rest
  if rest.startsWith "[" then
    let inner : List Char := (rest.drop 1).toString.toList
    let close := inner.findIdx (· == ']')
    let seg : List Char := inner.take close
    let after := if close < inner.length then String.ofList (inner.drop (close + 1)) else ""
    let (name, default?) :=
      match seg.findIdx? (· == '=') with
      | some i => (trimWhite (String.ofList (seg.take i)), some (trimWhite (String.ofList (seg.drop (i + 1)))))
      | none => (trimWhite (String.ofList seg), none)
    { type?, optional := true, default?, description? := nonEmpty (stripDash after), name }
  else
    let (name, after) := (splitAtBlank rest).getD (rest, "")
    { type?, optional := false, default? := none, description? := nonEmpty (stripDash after), name }

def TypedDoc.parse (value : String) : TypedDoc :=
  let (type?, rest) := splitType value
  { type?, description? := nonEmpty (stripDash rest) }

end PluginLens.Docs
