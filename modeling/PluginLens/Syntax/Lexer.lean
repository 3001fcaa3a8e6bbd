import PluginLens.Text.Source

/-!
# Lexical rules of JavaScript

Pure functions from a source and a character index to the index where a lexeme of some
class ends. The parser decides which class it expects next (a word, a number, an operator,
the inside of a string, a template or a regular expression), since the same characters
read differently in different places: `/` starts a pattern where an operand may begin and
divides elsewhere, and `+=` is one operator only after something that can be assigned.

Every loop here walks forward from its start and stops at the end of the text, so each one
is bounded by the number of characters left.
-/

namespace PluginLens.Syntax

open PluginLens.Text

/-- Characters that can be neither the first nor a later character of a word. -/
def isWordStop (c : Char) : Bool :=
  c.toNat < 0x20 || isWhite c || isSpaceSeparator c ||
    ":;`\"'@#.,|^&<=>+-*/\\%?!~()[]\x7b\x7d".toList.contains c ||
    c.toNat == 0xFEFF || c.toNat == 0x2060 || c.toNat == 0x200B

def isWordStart (c : Char) : Bool := !isWordStop c && !c.isDigit

def isWordPart (c : Char) : Bool := !isWordStop c

def isHex (c : Char) : Bool :=
  c.isDigit || ('a' ≤ c && c ≤ 'f') || ('A' ≤ c && c ≤ 'F')

def isOctal (c : Char) : Bool := '0' ≤ c && c ≤ '7'

def isBinaryDigit (c : Char) : Bool := c == '0' || c == '1'

/-- End of a run of at least one digit of class `p`, with single `_` allowed between
digits; `none` when no digit stands at `i`. -/
def digitsEnd? (src : Source) (p : Char → Bool) (i : Nat) : Option Nat :=
  if !src.atEnd i && p (src.charAt i) then some (go (src.size - i + 1) (i + 1)) else none
where
  go : Nat → Nat → Nat
    | 0, j => j
    | fuel + 1, j =>
      if !src.atEnd j && p (src.charAt j) then go fuel (j + 1)
      else if src.charAt j == '_' && !src.atEnd (j + 1) && p (src.charAt (j + 1)) then
        go fuel (j + 2)
      else j

/-- End of an exponent part `e[+-]digits` at `i`. -/
def exponentEnd? (src : Source) (i : Nat) : Option Nat :=
  if src.charAt i == 'e' || src.charAt i == 'E' then
    let j := if src.charAt (i + 1) == '+' || src.charAt (i + 1) == '-' then i + 2 else i + 1
    digitsEnd? src Char.isDigit j
  else none

/-- End of a decimal integer literal: `0`, or digits with an optional leading `0`
before a nonzero digit. -/
def decimalIntegerEnd? (src : Source) (i : Nat) : Option Nat :=
  let c := src.charAt i
  let nonzeroAt (j : Nat) : Option Nat :=
    let d := src.charAt j
    if !src.atEnd j && '1' ≤ d && d ≤ '9' then
      let k := j + 1
      if src.charAt k == '_' then
        match digitsEnd? src Char.isDigit (k + 1) with
        | some e => some e
        | none => some k
      else some ((digitsEnd? src Char.isDigit k).getD k)
    else none
  if src.atEnd i then none
  else if c == '0' then
    match nonzeroAt (i + 1) with
    | some e => some e
    | none => some (i + 1)
  else nonzeroAt i

/-- The later of two optional ends. -/
def maxEnd : Option Nat → Option Nat → Option Nat
  | some a, some b => some (max a b)
  | some a, none => some a
  | none, b => b

/-- An optional trailing `n` of a big integer. -/
def bigintEnd? (src : Source) (e : Option Nat) : Option Nat :=
  match e with
  | some j => if src.charAt j == 'n' && !src.atEnd j then some (j + 1) else none
  | none => none

/-- End of the longest number literal at `i`. -/
def numberEnd? (src : Source) (i : Nat) : Option Nat :=
  let prefixed (lower upper : Char) (p : Char → Bool) : Option Nat :=
    if src.charAt i == '0' && (src.charAt (i + 1) == lower || src.charAt (i + 1) == upper) then
      digitsEnd? src p (i + 2)
    else none
  let hex := prefixed 'x' 'X' isHex
  let bin := prefixed 'b' 'B' isBinaryDigit
  let oct := prefixed 'o' 'O' isOctal
  let digits := digitsEnd? src Char.isDigit i
  let intLit := decimalIntegerEnd? src i
  -- integer literal, point, optional digits, optional exponent
  let withPoint : Option Nat :=
    match intLit with
    | some j =>
      if src.charAt j == '.' then
        let k := (digitsEnd? src Char.isDigit (j + 1)).getD (j + 1)
        some ((exponentEnd? src k).getD k)
      else none
    | none => none
  -- point, digits, optional exponent
  let leadingPoint : Option Nat :=
    if src.charAt i == '.' then
      match digitsEnd? src Char.isDigit (i + 1) with
      | some k => some ((exponentEnd? src k).getD k)
      | none => none
    else none
  let withExponent : Option Nat :=
    match intLit with
    | some j => exponentEnd? src j
    | none => none
  let big := maxEnd (maxEnd (bigintEnd? src hex) (bigintEnd? src bin))
    (maxEnd (bigintEnd? src oct) (bigintEnd? src digits))
  [hex, bin, oct, withPoint, leadingPoint, withExponent, digits, big].foldl maxEnd none

/-- End of a `\uXXXX` or `\u{X…}` escape at `i` (the backslash). -/
def unicodeEscapeEnd? (src : Source) (i : Nat) : Option Nat :=
  if src.charAt i == '\\' && src.charAt (i + 1) == 'u' then
    if src.charAt (i + 2) == '{' then
      match digitsEnd? src isHex (i + 3) with
      | some j =>
        -- no separators are allowed inside the braces
        if src.charAt j == '}' && (skipWhile src isHex (i + 3)) == j then some (j + 1) else none
      | none => none
    else if (List.range 4).all (fun k => isHex (src.charAt (i + 2 + k)) && !src.atEnd (i + 2 + k))
      then some (i + 6)
    else none
  else none

/-- End of a word (identifier or keyword) at `i`. -/
def wordEnd? (src : Source) (i : Nat) : Option Nat :=
  let first : Option Nat :=
    if src.atEnd i then none
    else if isWordStart (src.charAt i) then some (i + 1)
    else unicodeEscapeEnd? src i
  match first with
  | some j => some (rest (src.size - j + 1) j)
  | none => none
where
  rest : Nat → Nat → Nat
    | 0, j => j
    | fuel + 1, j =>
      if src.atEnd j then j
      else if isWordPart (src.charAt j) then rest fuel (j + 1)
      else match unicodeEscapeEnd? src j with
        | some k => rest fuel k
        | none => j

/-- End of a comment starting at `i`: `//` to the line's end, or `/*` to the first `*/`. -/
def commentEnd? (src : Source) (i : Nat) : Option Nat :=
  if src.charAt i == '/' && src.charAt (i + 1) == '/' then
    some (skipWhile src (fun c => c != '\r' && !isLineBreak c) (i + 2))
  else if src.charAt i == '/' && src.charAt (i + 1) == '*' then
    blockEnd (src.size - i + 1) (i + 2)
  else none
where
  blockEnd : Nat → Nat → Option Nat
    | 0, _ => none
    | fuel + 1, j =>
      if src.atEnd j then none
      else if src.charAt j == '*' && src.charAt (j + 1) == '/' && !src.atEnd (j + 1) then
        some (j + 2)
      else blockEnd fuel (j + 1)

/-- End of an escape sequence at `i` (the backslash) inside a string or template. -/
def escapeEnd? (src : Source) (i : Nat) : Option Nat :=
  if src.charAt i != '\\' || src.atEnd (i + 1) then none
  else
    let c := src.charAt (i + 1)
    let plain := if c != 'x' && c != 'u' && !isOctal c then some (i + 2) else none
    let octal :=
      if isOctal c then
        if isOctal (src.charAt (i + 2)) && !src.atEnd (i + 2) then
          if isOctal (src.charAt (i + 3)) && !src.atEnd (i + 3) then some (i + 4) else some (i + 3)
        else some (i + 2)
      else none
    let hex2 :=
      if c == 'x' && isHex (src.charAt (i + 2)) && isHex (src.charAt (i + 3)) &&
          !src.atEnd (i + 3) then some (i + 4) else none
    let uni := unicodeEscapeEnd? src i
    let lineCont :=
      if (c == '\r' || c == '?') && isLineBreak (src.charAt (i + 2)) && !src.atEnd (i + 2) then
        some (i + 3)
      else none
    [plain, octal, hex2, uni, lineCont].foldl maxEnd none

def stringFragmentEnd (src : Source) (q : Char) (i : Nat) : Nat :=
  skipWhile src (fun c => c != q && c != '\\' && c != '\r' && c != '\n') i

/-- End of the literal characters of a template at `i`: up to a backquote, `${` or a
backslash. `none` when there are none, or when the text or a NUL character comes first. -/
def templateCharsEnd? (src : Source) (i : Nat) : Option Nat :=
  go (src.size - i + 1) i false
where
  go : Nat → Nat → Bool → Option Nat
    | 0, _, _ => none
    | fuel + 1, j, hasContent =>
      if src.atEnd j then none
      else
        let c := src.charAt j
        if c == '\x00' then none
        else if c == '`' || c == '\\' then (if hasContent then some j else none)
        else if c == '$' && src.charAt (j + 1) == '{' && !src.atEnd (j + 1) then
          (if hasContent then some j else none)
        else go fuel (j + 1) true

/-- End of the body of a regular expression at `i` (after its opening slash): classes in
brackets, escaped characters, and anything else but a slash or a line feed. -/
def regexBodyEnd (src : Source) (i : Nat) : Nat :=
  go (src.size - i + 1) i
where
  classEnd : Nat → Nat → Option Nat
    | 0, _ => none
    | fuel + 1, j =>
      if src.atEnd j then none
      else
        let c := src.charAt j
        if c == ']' then some (j + 1)
        else if c == '\\' then
          if src.atEnd (j + 1) || src.charAt (j + 1) == '\n' then none else classEnd fuel (j + 2)
        else if c == '\n' then none
        else classEnd fuel (j + 1)
  go : Nat → Nat → Nat
    | 0, j => j
    | fuel + 1, j =>
      if src.atEnd j then j
      else
        let c := src.charAt j
        if c == '[' then
          match classEnd (src.size - j + 1) (j + 1) with
          | some k => go fuel k
          | none => j
        else if c == '\\' then
          if src.atEnd (j + 1) || src.charAt (j + 1) == '\n' then j else go fuel (j + 2)
        else if c == '/' || c == '\n' then j
        else go fuel (j + 1)

/-- End of a private name `#word` at `i`. -/
def privateNameEnd? (src : Source) (i : Nat) : Option Nat :=
  if src.charAt i == '#' && !src.atEnd i then
    if !src.atEnd (i + 1) && isWordStart (src.charAt (i + 1)) then wordEnd? src (i + 1)
    else none
  else none

def compoundAssignments : List String :=
  ["+=", "-=", "*=", "/=", "%=", "^=", "&=", "|=", ">>=", ">>>=", "<<=", "**=", "&&=", "||=",
    "??="]

/-- Every punctuator, longest first. -/
def punctuators : List String :=
  [">>>=", "...", "===", "!==", "**=", "<<=", ">>=", ">>>", "&&=", "||=", "??=",
    "=>", "==", "!=", "<=", ">=", "&&", "||", "??", "?.", "++", "--", "+=", "-=", "*=", "/=",
    "%=", "&=", "|=", "^=", "**", "<<", ">>",
    "\x7b", "\x7d", "(", ")", "[", "]", ";", ",", "<", ">", "+", "-", "*", "/", "%", "&", "|", "^",
    "!", "~", "?", ":", "=", ".", "@", "`"]

/-- Every punctuator with its characters and whether it is a compound assignment, longest
first. -/
def punctuatorTable : List (String × List Char × Bool) :=
  punctuators.map fun p => (p, p.toList, compoundAssignments.contains p)

/-- The rows of `punctuatorTable` by the code of their first character, for the codes below
128 (every punctuator is ASCII). -/
def punctuatorIndex : Array (List (String × List Char × Bool)) :=
  (Array.range 128).map fun k => punctuatorTable.filter fun (_, cs, _) => cs.head? == some (Char.ofNat k)

/-- The longest punctuator at `i`; compound assignments only when `assign` holds. A `?.`
followed by a digit is a `?` (a conditional before a fraction). -/
def punctuatorAt? (src : Source) (i : Nat) (assign : Bool) : Option String :=
  let rows := if src.atEnd i then [] else punctuatorIndex.getD (src.charAt i).toNat []
  let found := rows.find? fun (_, cs, compound) =>
    (assign || !compound) && startsWithCharsAt src i cs
  match found.map (·.1) with
  | some "?." => if (src.charAt (i + 2)).isDigit then some "?" else some "?."
  | other => other

end PluginLens.Syntax
