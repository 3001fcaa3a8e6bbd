import PluginLens.Syntax.Lexer

/-!
# Automatic semicolons

Where a statement may end, a line break can stand for its semicolon. The rule, applied at
the character right after the last token:

* on the same line, the end of the text, a NUL character or a `}` ends the statement;
  comments are looked through, and when `commentEnds` holds (the statement cannot go on
  with an operator) a comment that is followed by a line break ends it too, unless a `,` or
  `=` comes next; anything else on the same line keeps the statement going;
* after a line break (and any blanks and comments), the statement goes on when the next
  character is one of `, : ; * % > < = [ ( ? ^ | & /` or a backquote, a `.` that does not
  start a number, a `+` or `-` that does not start `++` or `--`, a `!` that starts `!=`, or
  the word `in` or `instanceof`; otherwise it ends.

A zero-width semicolon is then placed at the starting point. The scan of comments answers
`stop` on a `/` that starts no comment, `ok` when it reached the next character, and
`sameLine` when a block comment without a line break inside it is followed by something
other than `/` (only when the comments are not consumed).
-/

namespace PluginLens.Syntax

open PluginLens.Text

/-- Outcome of looking through blanks and comments. -/
inductive CommentScan where
  | ok
  | sameLine
  | stop
  deriving DecidableEq, Repr

/-- Looks through blanks and comments from `i`; returns the outcome and the index reached. -/
def scanComments (src : Source) (consume : Bool) (i : Nat) : CommentScan × Nat :=
  go (src.size - i + 2) i false
where
  blockEnd : Nat → Nat → Bool → Option (Nat × Bool)
    | 0, _, _ => none
    | fuel + 1, j, sawBreak =>
      if src.atEnd j then none
      else if src.charAt j == '*' && src.charAt (j + 1) == '/' && !src.atEnd (j + 1) then
        some (j + 2, sawBreak)
      else blockEnd fuel (j + 1) (sawBreak || isLineBreak (src.charAt j))
  go : Nat → Nat → Bool → CommentScan × Nat
    | 0, j, _ => (.ok, j)
    | fuel + 1, j, sawBreak =>
      let j := skipWhile src isAsciiSpace j
      if src.charAt j == '/' && !src.atEnd j then
        let c := src.charAt (j + 1)
        if c == '/' && !src.atEnd (j + 1) then
          go fuel (skipWhile src (fun c => !isLineBreak c) (j + 2)) sawBreak
        else if c == '*' && !src.atEnd (j + 1) then
          match blockEnd (src.size - j + 1) (j + 2) sawBreak with
          | some (k, sawBreak') =>
            if (src.charAt k != '/' || src.atEnd k) && !consume then
              (if sawBreak' then .ok else .sameLine, k)
            else go fuel k sawBreak'
          | none => (.ok, src.size)
        else (.stop, j + 1)
      else (.ok, j)

/-- Whether a semicolon may be inferred at index `i`; `commentEnds` is the rule for a
comment on the same line. -/
def semicolonAt (src : Source) (commentEnds : Bool) (i : Nat) : Bool :=
  sameLine (src.size - i + 2) i
where
  sameLine : Nat → Nat → Bool
    | 0, _ => true
    | fuel + 1, j =>
      if src.atEnd j || src.charAt j == '\x00' then true
      else
        let step : Option (CommentScan × Nat) :=
          if src.charAt j == '/' then some (scanComments src false j) else none
        match step with
        | some (.stop, _) => false
        | some (r, k) =>
          if r == .ok && commentEnds && src.charAt k != ',' && src.charAt k != '=' then true
          else afterComments fuel k
        | none => afterComments fuel j
  afterComments : Nat → Nat → Bool
    | 0, _ => true
    | fuel + 1, j =>
      let c := src.charAt j
      if c == '}' && !src.atEnd j then true
      else if isLineBreak c && !src.atEnd j then nextLine (j + 1)
      else if src.atEnd j then false
      else if !isAsciiSpace c then false
      else sameLine fuel (j + 1)
  nextLine (j : Nat) : Bool :=
    match scanComments src true j with
    | (.stop, _) => false
    | (_, k) =>
      let c := src.charAt k
      if src.atEnd k then true
      else if ",:;*%><=[(?^|&/".toList.contains c || c == '\x60' then false
      else if c == '.' then (src.charAt (k + 1)).isDigit
      else if c == '+' then src.charAt (k + 1) == '+'
      else if c == '-' then src.charAt (k + 1) == '-'
      else if c == '!' then src.charAt (k + 1) != '='
      else if c == 'i' then
        if src.charAt (k + 1) != 'n' then true
        else if !(src.charAt (k + 2)).isAlpha then false
        else if startsWithAt src (k + 2) "stanceof" then (src.charAt (k + 10)).isAlpha
        else true
      else true

end PluginLens.Syntax
