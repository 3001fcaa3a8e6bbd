import PluginLens.Command.Script.Pattern

/-!
# Basic regular expressions

The patterns of `expr`'s `:` and `match`: POSIX basic regular expressions with the common
additions, matched against the start of a text, byte by byte as in the C locale.

* `.` matches any byte, `[…]` a byte of a set (bytes, ranges, classes such as `[:alpha:]`, a
  leading `^` negating it), and any other byte itself;
* `*` repeats what stands before it, as do `\+` (at least once), `\?` (at most once) and
  `\{m,n\}`; where an expression starts, `*`, `\+`, `\?`, `\{` and `\}` are plain bytes;
* `\(…\)` groups and numbers its match, `\1` to `\9` match a closed group's text again, and
  `\|` separates alternatives;
* `^` is an anchor only at the start of an expression (or right after `\(` or `\|`), `$`
  only at its end (or right before `\)` or `\|`); elsewhere both are plain bytes, and nothing
  repeats an anchor;
* `\w`, `\W`, `\s`, `\S` are word and space bytes; `\b`, `\B`, `\<`, `\>` word edges.

A match is the longest one from the start of the text; when several are as long, the groups
take their values from the one a left-to-right greedy search finds first. A pattern that
cannot be read gives the message the C library gives.
-/

namespace PluginLens.Command

open ByteStr

/-- A member of a bracket expression. -/
inductive SetMember where
  | byte (c : Char)
  | range (lo hi : Char)
  | named (name : String)
  deriving Inhabited

def SetMember.contains (m : SetMember) (c : Char) : Bool :=
  match m with
  | .byte d => c == d
  | .range lo hi => lo ≤ c && c ≤ hi
  | .named n => classMember n c == some true

/-- The places a zero-width assertion picks out. -/
inductive Edge where
  | textStart
  | textEnd
  | wordEdge
  | notWordEdge
  | wordStart
  | wordEnd
  deriving Inhabited

/-- A basic regular expression, read. -/
inductive Regex where
  | empty
  | byte (c : Char)
  | any
  | set (negated : Bool) (members : List SetMember)
  | edge (e : Edge)
  | group (n : Nat) (body : Regex)
  | backref (n : Nat)
  | seq (first next : Regex)
  | alt (left right : Regex)
  | rep (body : Regex) (least : Nat) (most : Option Nat)
  deriving Inhabited

namespace Regex

def size : Regex → Nat
  | group _ b => size b + 1
  | seq a b => size a + size b + 1
  | alt a b => size a + size b + 1
  | rep b _ _ => size b + 1
  | _ => 1

def leastSum : Regex → Nat
  | group _ b => leastSum b
  | seq a b => leastSum a + leastSum b
  | alt a b => leastSum a + leastSum b
  | rep b least _ => leastSum b + least
  | _ => 0

end Regex

def repeatLimit : Nat := 32767

def regexTrailingBackslash : String := "Trailing backslash"
def regexUnmatchedOpen : String := "Unmatched ( or \\("
def regexUnmatchedClose : String := "Unmatched ) or \\)"
def regexUnmatchedBracket : String := "Unmatched [, [^, [:, [., or [="
def regexBadBackref : String := "Invalid back reference"
def regexBadInterval : String := "Invalid content of \\\x7b\\\x7d"
def regexUnmatchedBrace : String := "Unmatched \\\x7b"
def regexTooBig : String := "Regular expression too big"
def regexBadRange : String := "Invalid range end"
def regexBadClass : String := "Invalid character class name"
def regexBadCollation : String := "Invalid collation character"
def regexInvalid : String := "Invalid regular expression"

/-! ## Bracket expressions -/

/-- An element of a bracket expression as written: a byte, or a name in `[:…:]`, `[=…=]` or
`[.….]`. -/
inductive BracketElem where
  | char (c : Char)
  | cls (name : ByteStr)
  | equiv (name : ByteStr)
  | coll (name : ByteStr)

/-- Reads the name of `[:name:]` (or with `=` or `.`) up to `delim` and `]`; answers the
name and the text after the `]`. -/
def readSymbolName (delim : Char) : Nat → ByteStr → ByteStr → Except String (ByteStr × ByteStr)
  | 0, _, _ => .error regexUnmatchedBracket
  | n + 1, acc, s =>
    if acc.length ≥ 32 then .error regexUnmatchedBracket else
    match s with
    | [] | [_] => .error regexUnmatchedBracket
    | c :: ']' :: rest => if c == delim then .ok (acc.reverse, rest) else readSymbolName delim n (c :: acc) (']' :: rest)
    | c :: rest => readSymbolName delim n (c :: acc) rest

/-- Reads one element of a bracket expression. A `-` may stand as an element only first, as
the end of a range, or last. -/
def readBracketElem (s : ByteStr) (hyphenOk : Bool) : Except String (BracketElem × ByteStr) :=
  match s with
  | '[' :: ':' :: rest => (readSymbolName ':' (rest.length + 1) [] rest).map fun (n, r) => (.cls n, r)
  | '[' :: '=' :: rest => (readSymbolName '=' (rest.length + 1) [] rest).map fun (n, r) => (.equiv n, r)
  | '[' :: '.' :: rest => (readSymbolName '.' (rest.length + 1) [] rest).map fun (n, r) => (.coll n, r)
  | '-' :: rest =>
    if !hyphenOk && rest.head? != some ']' then .error regexBadRange else .ok (.char '-', rest)
  | c :: rest => .ok (.char c, rest)
  | [] => .error regexUnmatchedBracket

def singleByte (name : ByteStr) : Except String Char :=
  match name with
  | [c] => .ok c
  | _ => .error regexBadCollation

def BracketElem.member : BracketElem → Except String SetMember
  | .char c => .ok (.byte c)
  | .cls name =>
    let n := String.ofList name
    if (classMember n 'a').isSome then .ok (.named n) else .error regexBadClass
  | .equiv name | .coll name => (singleByte name).map .byte

def BracketElem.rangeEnd : BracketElem → Except String Char
  | .char c => .ok c
  | .coll name => (singleByte name).mapError fun _ => regexBadCollation
  | _ => .error regexBadRange

def readBracketMembers : Nat → ByteStr → Bool → List SetMember → Except String (List SetMember × ByteStr)
  | 0, _, _, _ => .error regexUnmatchedBracket
  | n + 1, s, first, acc => do
    let (start, s) ← readBracketElem s first
    let isSymbolClass := match start with
      | .cls _ | .equiv _ => true
      | _ => false
    let (member, s) ← do
      if isSymbolClass then pure (← start.member, s)
      else match s with
        | [] | ['-'] => throw regexUnmatchedBracket
        | '-' :: ']' :: _ => pure (← start.member, s)
        | '-' :: after => do
          let (fin, s) ← readBracketElem after true
          match start, fin with
          | .cls _, _ | .equiv _, _ | _, .cls _ | _, .equiv _ => throw regexBadRange
          | _, _ => pure (SetMember.range (← start.rangeEnd) (← fin.rangeEnd), s)
        | _ => pure (← start.member, s)
    match s with
    | [] => throw regexUnmatchedBracket
    | ']' :: rest => pure ((member :: acc).reverse, rest)
    | _ => readBracketMembers n s false (member :: acc)

def readBracket (s : ByteStr) : Except String (Regex × ByteStr) := do
  if s.isEmpty then throw regexInvalid
  let (negated, s) := match s with
    | '^' :: rest => (true, rest)
    | _ => (false, s)
  if s.isEmpty then throw regexInvalid
  let (members, rest) ← readBracketMembers (s.length + 1) s true []
  pure (.set negated members, rest)

/-! ## Reading a pattern -/

/-- A token inside an interval `\{…\}`: a byte, the closing `\}`, or the end of the pattern;
`plain` tells a byte written by itself (or escaped without a meaning) from an operator. -/
inductive IntervalToken where
  | byte (c : Char) (plain : Bool)
  | close
  | finish

def intervalToken (s : ByteStr) : IntervalToken × ByteStr :=
  match s with
  | [] => (.finish, [])
  | '\\' :: '}' :: rest => (.close, rest)
  | ['\\'] => (.finish, [])
  | '\\' :: c :: rest =>
    (.byte c (!("()\x7b\x7d|123456789+?<>bBwWsS\x60\x27".toList.contains c)), rest)
  | c :: rest => (.byte c true, rest)

/-- Reads a count inside an interval: `some n` for digits, none (as `-1`) for no digits,
and an invalid count (as `-2`) for anything else; answers the token that ended it. -/
def intervalNumber : Nat → Int → ByteStr → Int × IntervalToken × ByteStr
  | 0, _, s => (-2, .finish, s)
  | n + 1, num, s =>
    match intervalToken s with
    | (.finish, rest) => (-2, .finish, rest)
    | (.close, rest) => (num, .close, rest)
    | (.byte ',' p, rest) => (num, .byte ',' p, rest)
    | (.byte c p, rest) =>
      let d : Int := (c.toNat - '0'.toNat : Nat)
      let num : Int := if !p || !isDigit c || num == -2 then -2
        else if num == -1 then d
        else min ((repeatLimit : Int) + 1) (num * 10 + d)
      intervalNumber n num rest

def readInterval (s : ByteStr) : Except String (Nat × Option Nat × ByteStr) :=
  let fuel := s.length + 2
  let (start, tok, rest) := intervalNumber fuel (-1) s
  let isComma := match tok with
    | .byte ',' _ => true
    | _ => false
  let isClose := match tok with
    | .close => true
    | _ => false
  let isEnd := match tok with
    | .finish => true
    | _ => false
  if start == -1 && !isComma then .error regexBadInterval else
  let start := if start == -1 then 0 else start
  let (fin, tok, rest) :=
    if start == -2 then (start, tok, rest)
    else if isClose then (start, tok, rest)
    else if isComma then intervalNumber fuel (-1) rest
    else (-2, tok, rest)
  let isClose := match tok with
    | .close => true
    | _ => false
  let isEnd := isEnd || match tok with
    | .finish => true
    | _ => false
  if start == -2 || fin == -2 then
    .error (if isEnd then regexUnmatchedBrace else regexBadInterval)
  else if (fin != -1 && start > fin) || !isClose then .error regexBadInterval
  else if (repeatLimit : Int) < (if fin == -1 then start else fin) then .error regexTooBig
  else .ok (start.toNat, if fin == -1 then none else some fin.toNat, rest)

def readRepeats : Nat → Regex → ByteStr → Except String (Regex × ByteStr)
  | 0, r, s => .ok (r, s)
  | n + 1, r, s =>
    match s with
    | '*' :: rest => readRepeats n (.rep r 0 none) rest
    | '\\' :: '+' :: rest => readRepeats n (.rep r 1 none) rest
    | '\\' :: '?' :: rest => readRepeats n (.rep r 0 (some 1)) rest
    | '\\' :: '{' :: rest => do
      let (lo, hi, rest) ← readInterval rest
      readRepeats n (.rep r lo hi) rest
    | _ => .ok (r, s)

/-- What an atom turned out to be: something a repetition may follow, or an anchor. -/
inductive AtomRead where
  | atom (r : Regex)
  | anchor (r : Regex)

def wordSet (negated : Bool) : Regex := .set negated [.named "alnum", .byte '_']

/-- Reads one atom other than a group; `caret` tells whether a `^` here is an anchor, and
`closed` lists the groups a back reference may name. -/
def readAtom (caret : Bool) (closed : List Nat) (s : ByteStr) : Except String (AtomRead × ByteStr) :=
  match s with
  | [] => .ok (.atom .empty, [])
  | ['\\'] => .error regexTrailingBackslash
  | '\\' :: c :: rest =>
    if '1' ≤ c && c ≤ '9' then
      let n := c.toNat - '0'.toNat
      if closed.contains n then .ok (.atom (.backref n), rest) else .error regexBadBackref
    else match c with
      | ')' => .error regexUnmatchedClose
      | 'w' => .ok (.atom (wordSet false), rest)
      | 'W' => .ok (.atom (wordSet true), rest)
      | 's' => .ok (.atom (.set false [.named "space"]), rest)
      | 'S' => .ok (.atom (.set true [.named "space"]), rest)
      | 'b' => .ok (.anchor (.edge .wordEdge), rest)
      | 'B' => .ok (.anchor (.edge .notWordEdge), rest)
      | '<' => .ok (.anchor (.edge .wordStart), rest)
      | '>' => .ok (.anchor (.edge .wordEnd), rest)
      | '\x60' => .ok (.anchor (.edge .textStart), rest)
      | '\'' => .ok (.anchor (.edge .textEnd), rest)
      | _ => .ok (.atom (.byte c), rest)
  | '.' :: rest => .ok (.atom .any, rest)
  | '[' :: rest => (readBracket rest).map fun (r, rest) => (.atom r, rest)
  | '^' :: rest => if caret then .ok (.anchor (.edge .textStart), rest) else .ok (.atom (.byte '^'), rest)
  | '$' :: rest =>
    match rest with
    | [] | '\\' :: ')' :: _ | '\\' :: '|' :: _ => .ok (.anchor (.edge .textEnd), rest)
    | _ => .ok (.atom (.byte '$'), rest)
  | c :: rest => .ok (.atom (.byte c), rest)

/-- Where reading a pattern stands: the rest of it, the groups opened so far, and those
closed. -/
structure RegexReader where
  rest : ByteStr
  opened : Nat := 0
  closed : List Nat := []

mutual

def readAlternatives : Nat → Bool → RegexReader → Except String (Regex × RegexReader)
  | 0, _, _ => .error regexTooBig
  | n + 1, nested, rd => do
    let (first, rd) ← readBranch n nested true none rd
    readMoreAlternatives n nested first rd

def readMoreAlternatives : Nat → Bool → Regex → RegexReader → Except String (Regex × RegexReader)
  | 0, _, _, _ => .error regexTooBig
  | n + 1, nested, acc, rd =>
    match rd.rest with
    | '\\' :: '|' :: more => do
      let (b, rd) ← readBranch n nested true none { rd with rest := more }
      readMoreAlternatives n nested (.alt acc b) rd
    | _ => .ok (acc, rd)

/-- Reads the pieces of one alternative; `caret` tells whether a `^` at its start is an
anchor. -/
def readBranch : Nat → Bool → Bool → Option Regex → RegexReader → Except String (Regex × RegexReader)
  | 0, _, _, _, _ => .error regexTooBig
  | n + 1, nested, caret, acc, rd =>
    match rd.rest with
    | [] | '\\' :: '|' :: _ => .ok (acc.getD .empty, rd)
    | '\\' :: ')' :: _ =>
      if nested then .ok (acc.getD .empty, rd) else .error regexUnmatchedClose
    | _ => do
      let (p, rd) ← readPiece n caret rd
      readBranch n nested false (some (match acc with
        | some a => .seq a p
        | none => p)) rd

def readPiece : Nat → Bool → RegexReader → Except String (Regex × RegexReader)
  | 0, _, _ => .error regexTooBig
  | n + 1, caret, rd =>
    match rd.rest with
    | '\\' :: '(' :: more => do
      let g := rd.opened + 1
      let (body, rd) ← readAlternatives n true { rd with rest := more, opened := g }
      match rd.rest with
      | '\\' :: ')' :: more =>
        let (r, rest) ← readRepeats (more.length + 1) (.group g body) more
        pure (r, { rd with rest, closed := g :: rd.closed })
      | _ => throw regexUnmatchedOpen
    | s => do
      match ← readAtom caret rd.closed s with
      | (.anchor r, rest) => pure (r, { rd with rest })
      | (.atom r, rest) =>
        let (r, rest) ← readRepeats (rest.length + 1) r rest
        pure (r, { rd with rest })

end

/-- A pattern, read: the expression and the number of its groups. -/
structure Pattern where
  regex : Regex
  groups : Nat

def readPattern (s : ByteStr) : Except String Pattern := do
  let (r, rd) ← readAlternatives (2 * s.length + 4) false { rest := s }
  if !rd.rest.isEmpty then throw regexUnmatchedClose
  pure { regex := r, groups := rd.opened }

/-! ## Matching -/

abbrev Captures := List (Nat × Nat × Nat)

def isWordByte (c : Char) : Bool := isAlpha c || isDigit c || c == '_'

def Edge.holds (e : Edge) (text : Array Char) (i : Nat) : Bool :=
  let before := i > 0 && (text[i - 1]?).any isWordByte
  let after := (text[i]?).any isWordByte
  match e with
  | .textStart => i == 0
  | .textEnd => i == text.size
  | .wordEdge => before != after
  | .notWordEdge => before == after
  | .wordStart => !before && after
  | .wordEnd => before && !after

/-- Every way `r` matches the text from position `i` on, continued by `k`: the matches `k`
answers, in the order a greedy left-to-right search meets them. A repetition whose body
matched nothing stops, once it has made the matches it must. -/
def matchFrom (text : Array Char) : Nat → Regex → Nat → Captures →
    (Nat → Captures → List (Nat × Captures)) → List (Nat × Captures)
  | 0, _, _, _, _ => []
  | fuel + 1, r, i, caps, k =>
    match r with
    | .empty => k i caps
    | .byte c => if text[i]? == some c then k (i + 1) caps else []
    | .any => if i < text.size then k (i + 1) caps else []
    | .set negated ms =>
      match text[i]? with
      | some c => if ms.any (·.contains c) != negated then k (i + 1) caps else []
      | none => []
    | .edge e => if e.holds text i then k i caps else []
    | .group n body =>
      matchFrom text fuel body i caps fun j c => k j ((n, i, j) :: c.filter (·.1 != n))
    | .backref n =>
      match caps.find? (·.1 == n) with
      | some (_, a, b) =>
        let seg := text.extract a b
        if i + seg.size ≤ text.size && text.extract i (i + seg.size) == seg then
          k (i + seg.size) caps
        else []
      | none => []
    | .seq a b => matchFrom text fuel a i caps fun j c => matchFrom text fuel b j c k
    | .alt a b => matchFrom text fuel a i caps k ++ matchFrom text fuel b i caps k
    | .rep body least most =>
      let again :=
        if most == some 0 then []
        else matchFrom text fuel body i caps fun j c =>
          if j == i && least == 0 then []
          else matchFrom text fuel (.rep body (least - 1) (most.map (· - 1))) j c k
      let stop := if least == 0 then k i caps else []
      again ++ stop

def Pattern.matchStart (p : Pattern) (text : ByteStr) : Option (Nat × Captures) :=
  let arr := text.toArray
  let fuel := (p.regex.size + 1) * (arr.size + p.regex.leastSum + 2)
  let found := matchFrom arr fuel p.regex 0 [] fun j c => [(j, c)]
  found.foldl (fun best m =>
    match best with
    | none => some m
    | some b => if m.1 > b.1 then some m else best) none

end PluginLens.Command
