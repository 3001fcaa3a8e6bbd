import PluginLens.Toml.Basic
import PluginLens.Text.Source
import PluginLens.Decimal.Read

/-!
# Reading TOML

A document is read line by line: blank lines and comments, `[table]` and `[[array]]`
headers, and `key = value` pairs, each followed by an optional comment and the end of the
line. Values are basic and literal strings (single- and multi-line), integers (decimal with
`_` separators, or `0x`, `0o`, `0b`), floats (with a fraction or an exponent, `inf`, `nan`),
booleans, offset and local date-times, dates and times, arrays and inline tables.

Keys are placed as TOML requires: a key may be given once per table, a dotted key creates
tables that a header may not name again, and a header names a table at most once.

A failure is reported at the character where reading stopped, with the message the usual
TOML tooling gives there. Some failures only mean "this is not a value here": inside an
array such a failure ends the array's items instead, and the missing `]` is reported.
-/

namespace PluginLens.Toml

open PluginLens.Text

/-- A reading failure; `committed` is false for a failure that only says the text here is not
the thing that was tried. -/
structure Failure where
  error : TomlError
  committed : Bool
  deriving Inhabited

abbrev Read := ReaderT Source (StateT Nat (Except Failure))

/-- Why a key cannot be placed where it is written. -/
inductive Clash where
  /-- The key is already taken; `table` is the header path it was written under, when
  that is part of the complaint. -/
  | duplicate (key : String) (table : Option (List String))
  | wrongType (path : List String) (actual : String)
  deriving DecidableEq, Inhabited, Repr

/-- The complaint about a clash. -/
def Clash.message : Clash → String
  | .duplicate key none => "duplicate key `" ++ key ++ "`"
  | .duplicate key (some []) => "duplicate key `" ++ key ++ "` in document root"
  | .duplicate key (some t) => "duplicate key `" ++ key ++ "` in table `" ++ ".".intercalate t ++ "`"
  | .wrongType path actual =>
    "dotted key `" ++ ".".intercalate path ++ "` attempted to extend non-table type (" ++ actual ++ ")"

/-- The name of a value's type. -/
def Value.typeName : Value → String
  | .str .. => "string"
  | .int .. => "integer"
  | .float .. => "float"
  | .bool .. => "boolean"
  | .datetime .. => "datetime"
  | .array .. => "array"
  | .table _ .inline .. => "inline table"
  | .table .. => "table"

abbrev Entries := List (String × Value)

namespace Entries

def set (es : Entries) (k : String) (v : Value) : Entries :=
  es.map fun (k', v') => if k' == k then (k', v) else (k', v')

/-- Whether the items of an array are tables given by `[[headers]]`. -/
def isTableArray (items : List Value) : Bool :=
  match items.getLast? with
  | some (.table _ o _ _) => o != .inline
  | _ => false

/-- Changes the table reached by `path` with `f`, which also learns how that table came to
be. Missing tables on the way are created (dotted ones for a dotted key, implied ones for a
header); an array of tables is entered at its last table. A dotted key may not enter a
table that a header gave. -/
def modifyTable (dotted : Bool) (f : TableOrigin → Entries → Except Clash Entries) :
    List String → List String → TableOrigin → Entries → Except Clash Entries
  | _, [], origin, es => f origin es
  | walked, k :: rest, _, es =>
    let here := walked ++ [k]
    let fresh : TableOrigin := if dotted then .dotted else .implicit
    match es.lookup k with
    | none => do
      let inner ← modifyTable dotted f here rest fresh []
      pure (es ++ [(k, .table inner fresh 0 0)])
    | some (.table inner o s e) =>
      if o == .inline then .error (.wrongType here "inline table")
      else if dotted && o == .header then .error (.duplicate k none)
      else do
        let inner' ← modifyTable dotted f here rest o inner
        pure (es.set k (.table inner' o s e))
    | some (.array items s e) =>
      match items.getLast? with
      | some (.table inner o ts te) =>
        if o == .inline then .error (.wrongType here "array")
        else do
          let inner' ← modifyTable dotted f here rest o inner
          pure (es.set k (.array (items.dropLast ++ [.table inner' o ts te]) s e))
      | _ => .error (.wrongType here "array")
    | some v => .error (.wrongType here v.typeName)

/-- Places `leaf = v`, written with the dotted prefix `dotted` under the header `current`. -/
def addPair (current dotted : List String) (leaf : String) (v : Value) (root : Entries) :
    Except Clash Entries :=
  modifyTable false (fun _ es =>
    modifyTable true (fun origin inner =>
      if (origin == .dotted) == dotted.isEmpty then .error (.duplicate leaf none)
      else if (inner.lookup leaf).isSome then .error (.duplicate leaf (some current))
      else .ok (inner ++ [(leaf, v)])) [] dotted .header es) [] current .header root

/-- Places a header's table (or the next table of an array of tables) spanning `[b, e)`. -/
def addHeader (path : List String) (isArray : Bool) (b e : Nat) (root : Entries) :
    Except Clash Entries :=
  match path.getLast? with
  | none => .ok root
  | some k =>
    let parent := path.dropLast
    let fresh : Value := .table [] .header b e
    modifyTable false (fun _ es =>
      match es.lookup k, isArray with
      | none, false => .ok (es ++ [(k, fresh)])
      | none, true => .ok (es ++ [(k, .array [fresh] b e)])
      | some (.table inner .implicit _ _), false => .ok (es.set k (.table inner .header b e))
      | some (.array items s e'), true =>
        if isTableArray items then .ok (es.set k (.array (items ++ [fresh]) s e'))
        else .error (.duplicate k (some parent))
      | _, _ => .error (.duplicate k (some parent))) [] parent .header root

/-- The table an inline table's pairs make; a key may be given once. -/
def ofPairs (pairs : List (List String × Value)) : Except Clash Entries :=
  pairs.foldlM (fun es (path, v) =>
    match path.getLast? with
    | none => .ok es
    | some leaf =>
      let dotted := path.dropLast
      modifyTable true (fun origin inner =>
        if (origin == .dotted) == dotted.isEmpty then .error (.duplicate leaf none)
        else if (inner.lookup leaf).isSome then .error (.duplicate leaf none)
        else .ok (inner ++ [(leaf, v)])) [] dotted .inline es) []

end Entries

namespace Read

/-- The character `k` places ahead, if the text goes that far. -/
def peekAt (k : Nat) : Read (Option Char) := do
  let src ← read
  let i ← get
  return if src.atEnd (i + k) then none else some (src.charAt (i + k))

def peek : Read (Option Char) := peekAt 0

def skip (n : Nat) : Read Unit := modify (· + n)

/-- Fails at character `i`, naming the bytes of that one character. -/
def failAt {α : Type} (i : Nat) (message : String) (committed : Bool) : Read α := do
  let src ← read
  let b := src.byteAt i
  throw { error := { message, start := b, stop := if src.atEnd i then b else src.byteAt (i + 1) },
          committed }

def failHere {α : Type} (message : String) (committed : Bool) : Read α := do
  failAt (← get) message committed

def byteHere : Read Nat := do return (← read).byteAt (← get)

/-- Whether the text continues with `s`. -/
def startsWith (s : String) : Read Bool := do
  let src ← read
  let i ← get
  return (s.toList.zipIdx.all fun (c, k) => !src.atEnd (i + k) && src.charAt (i + k) == c)

def skipBlanks : Read Unit := do
  let src ← read
  modify fun i => skipWhile src (fun c => c == ' ' || c == '\t') i

def isCommentChar (c : Char) : Bool := c == '\t' || (c.toNat ≥ 0x20 && c.toNat != 0x7F)

/-- Skips a comment, if one starts here. -/
def skipComment : Read Unit := do
  if (← peek) == some '#' then
    let src ← read
    modify fun i => skipWhile src isCommentChar (i + 1)

/-- Reads a line ending (a line feed, or a carriage return and a line feed) or the end of
the text; answers whether there was one. -/
def lineEnding : Read Bool := do
  match ← peek with
  | none => return true
  | some '\n' => skip 1; return true
  | some '\r' =>
    if (← peekAt 1) == some '\n' then
      skip 2
      return true
    else return false
  | some _ => return false

/-- Blanks, an optional comment and the end of the line. -/
def lineTrailing : Read Unit := do
  skipBlanks
  skipComment
  unless ← lineEnding do failHere "expected newline, `#`" true

/-- Skips blanks, comments and line breaks. -/
def skipBlankLines : Read Unit := do
  let src ← read
  for _ in [0:src.size + 1] do
    skipBlanks
    match ← peek with
    | some '#' => skipComment
    | some '\n' => skip 1
    | some '\r' =>
      if (← peekAt 1) == some '\n' then skip 2 else return
    | _ => return

/-- The value of a hexadecimal digit. -/
def hexValue? (c : Char) : Option Nat :=
  if '0' ≤ c && c ≤ '9' then some (c.toNat - '0'.toNat)
  else if 'a' ≤ c && c ≤ 'f' then some (c.toNat - 'a'.toNat + 10)
  else if 'A' ≤ c && c ≤ 'F' then some (c.toNat - 'A'.toNat + 10)
  else none

def escapeMessage : String :=
  "invalid escape sequence\nexpected `b`, `f`, `n`, `r`, `t`, `u`, `U`, `\\`, `\"`"

/-- Reads exactly `n` hexadecimal digits naming a character; a number that names no
character is out of range. -/
def hexEscape (n : Nat) (label : String) : Read Char := do
  let src ← read
  let i ← get
  let ds := ((List.range n).map fun k => if src.atEnd (i + k) then none else hexValue? (src.charAt (i + k)))
  let digits := ds.takeWhile Option.isSome
  if digits.length < n then failHere ("invalid " ++ label) true
  let v := digits.foldl (fun acc d => 16 * acc + d.getD 0) 0
  if v > 0x10FFFF || (0xD800 ≤ v && v ≤ 0xDFFF) then
    failHere ("invalid " ++ label ++ "\nvalue is out of range") true
  skip n
  return Char.ofNat v

/-- Reads an escape after its backslash, which stands at `backslash`; `closing` is the complaint
for a backslash at the end of the text. -/
def escape (backslash : Nat) (closing : String) : Read Char := do
  match ← peek with
  | none => failAt backslash closing true
  | some c =>
    skip 1
    match c with
    | 'b' => return '\x08'
    | 'f' => return '\x0c'
    | 'n' => return '\n'
    | 'r' => return '\r'
    | 't' => return '\t'
    | '\\' => return '\\'
    | '"' => return '"'
    | 'u' => hexEscape 4 "unicode 4-digit hex code"
    | 'U' => hexEscape 8 "unicode 8-digit hex code"
    | _ => failHere escapeMessage true

def isBasicChar (c : Char) : Bool :=
  c == '\t' || (c.toNat ≥ 0x20 && c != '"' && c != '\\' && c.toNat != 0x7F)

def isLiteralChar (c : Char) : Bool :=
  c == '\t' || (c.toNat ≥ 0x20 && c != '\x27' && c.toNat != 0x7F)

/-- Reads a basic string after its opening quote. -/
def basicString : Read String := do
  let src ← read
  let mut acc : String := ""
  for _ in [0:src.size + 1] do
    match ← peek with
    | some '"' =>
      skip 1
      return acc
    | some '\\' =>
      let b ← get
      skip 1
      acc := acc.push (← escape b "invalid basic string")
    | some c =>
      if isBasicChar c then
        skip 1
        acc := acc.push c
      else failHere "invalid basic string" true
    | none => failHere "invalid basic string" true
  failHere "invalid basic string" true

/-- Reads a literal string after its opening quote. -/
def literalString : Read String := do
  let src ← read
  let i ← get
  let j := skipWhile src isLiteralChar i
  modify fun _ => j
  if (← peek) == some '\x27' then
    skip 1
    return src.charsBetween i j
  failHere "invalid literal string" true

/-- Skips the line break right after the opening delimiter of a multi-line string. -/
def skipFirstBreak : Read Unit := do
  match ← peek with
  | some '\n' => skip 1
  | some '\r' => if (← peekAt 1) == some '\n' then skip 2
  | _ => pure ()

/-- At a run of `q` quote characters: how many belong to the content before the closing
three, if they close the string. -/
def closingRun (q : Char) : Read (Option Nat) := do
  let src ← read
  let i ← get
  let n := (skipWhile src (· == q) i) - i
  return if n ≥ 3 then some (min n 5 - 3) else none

/-- Reads a multi-line basic string after its opening quotes. -/
def multiBasicString : Read String := do
  let src ← read
  skipFirstBreak
  let mut acc : String := ""
  for _ in [0:src.size + 1] do
    match ← peek with
    | some '"' =>
      match ← closingRun '"' with
      | some extra =>
        skip (extra + 3)
        return acc ++ String.ofList (List.replicate extra '"')
      | none =>
        skip 1
        acc := acc.push '"'
    | some '\\' =>
      let b ← get
      let j := skipWhile src (fun c => c == ' ' || c == '\t') (b + 1)
      if !src.atEnd j && (src.charAt j == '\n' || (src.charAt j == '\r' && src.charAt (j + 1) == '\n')) then
        modify fun _ => skipWhile src (fun c => c == ' ' || c == '\t' || c == '\n' || c == '\r') j
      else
        skip 1
        acc := acc.push (← escape b "invalid multiline basic string")
    | some '\n' =>
      skip 1
      acc := acc.push '\n'
    | some '\r' =>
      if (← peekAt 1) == some '\n' then
        skip 2
        acc := acc.push '\n'
      else failHere "invalid multiline basic string" true
    | some c =>
      if isBasicChar c then
        skip 1
        acc := acc.push c
      else failHere "invalid multiline basic string" true
    | none => failHere "invalid multiline basic string" true
  failHere "invalid multiline basic string" true

/-- Reads a multi-line literal string after its opening quotes. -/
def multiLiteralString : Read String := do
  let src ← read
  skipFirstBreak
  let mut acc : String := ""
  for _ in [0:src.size + 1] do
    match ← peek with
    | some '\x27' =>
      match ← closingRun '\x27' with
      | some extra =>
        skip (extra + 3)
        return acc ++ String.ofList (List.replicate extra '\x27')
      | none =>
        skip 1
        acc := acc.push '\x27'
    | some '\n' =>
      skip 1
      acc := acc.push '\n'
    | some '\r' =>
      if (← peekAt 1) == some '\n' then
        skip 2
        acc := acc.push '\n'
      else failHere "invalid multiline literal string" true
    | some c =>
      if isLiteralChar c then
        skip 1
        acc := acc.push c
      else failHere "invalid multiline literal string" true
    | none => failHere "invalid multiline literal string" true
  failHere "invalid multiline literal string" true

/-- Reads any string, at its opening quote. -/
def anyString : Read String := do
  if ← startsWith "\"\"\"" then
    skip 3
    multiBasicString
  else if ← startsWith "'''" then
    skip 3
    multiLiteralString
  else if (← peek) == some '"' then
    skip 1
    basicString
  else
    skip 1
    literalString

def isKeyChar (c : Char) : Bool :=
  c.isAlphanum && c.toNat < 128 || c == '_' || c == '-'

/-- Reads one key: quoted, or bare. -/
def simpleKey : Read String := do
  match ← peek with
  | some '"' =>
    skip 1
    basicString
  | some '\x27' =>
    skip 1
    literalString
  | _ =>
    let src ← read
    let i ← get
    let j := skipWhile src isKeyChar i
    if j == i then failHere "invalid key" false
    modify fun _ => j
    return src.charsBetween i j

/-- Reads a dotted key: keys separated by dots, blanks allowed around each. -/
def keyPath : Read (List String) := do
  let src ← read
  let mut parts : Array String := #[]
  for _ in [0:src.size + 1] do
    skipBlanks
    parts := parts.push (← simpleKey)
    skipBlanks
    if (← peek) == some '.' then skip 1 else return parts.toList
  return parts.toList

/-- Reads digits of a radix with single `_` between them; at least one digit. -/
def digitsWith (isDigit : Char → Bool) (label : String) : Read (List Char) := do
  let src ← read
  let first ← peek
  let ok := match first with
    | some c => isDigit c
    | none => false
  if !ok then failHere label true
  skip 1
  let mut acc : Array Char := #[first.getD '0']
  for _ in [0:src.size + 1] do
    match ← peek with
    | some '_' =>
      match ← peekAt 1 with
      | some d =>
        if isDigit d then
          skip 2
          acc := acc.push d
        else
          skip 1
          failHere (label ++ "\nexpected digit") true
      | none =>
        skip 1
        failHere (label ++ "\nexpected digit") true
    | some c =>
      if isDigit c then
        skip 1
        acc := acc.push c
      else return acc.toList
    | none => return acc.toList
  return acc.toList

def radixValue (radix : Nat) (cs : List Char) : Nat :=
  cs.foldl (fun n c => radix * n + (hexValue? c).getD 0) 0

def fits (i : Int) : Bool := -(Nat.pow 2 63 : Int) ≤ i && i < Nat.pow 2 63

/-- Reads a decimal integer part without its sign: `0`, or a digit other than `0` followed
by digits and single underscores. `none` when no digit starts here. -/
def decimalDigits (label : String) : Read (Option (List Char)) := do
  match ← peek with
  | some '0' =>
    skip 1
    return some ['0']
  | some c =>
    if c.isDigit then return some (← digitsWith Char.isDigit label) else return none
  | none => return none

/-- Reads a sign, if one is here. -/
def signHere : Read String := do
  match ← peek with
  | some '-' =>
    skip 1
    return "-"
  | some '+' =>
    skip 1
    return "+"
  | _ => return ""

/-- Reads a number starting here (a sign or a digit): a float when a fraction or an
exponent follows the integer part, or `inf`/`nan` after a sign; otherwise an integer. A float
too large for a double is refused when positive and is negative infinity when negative. -/
def number : Read Value := do
  let src ← read
  let start ← get
  let b ← byteHere
  let sign ← signHere
  -- special floats
  if sign != "" then
    if (← startsWith "inf") || (← startsWith "nan") then
      let special := if ← startsWith "inf" then "inf" else "nan"
      skip 3
      let f : Float := if special == "nan" then 0.0 / 0.0 else 1.0 / 0.0
      return .float (if sign == "-" then -f else f) b (← byteHere)
  let radix? : Option (Nat × (Char → Bool) × String) :=
    if sign != "" || src.charAt start != '0' then none
    else match src.charAt (start + 1) with
      | 'x' => some (16, fun c => (hexValue? c).isSome, "invalid hexadecimal integer")
      | 'o' => some (8, fun c => '0' ≤ c && c ≤ '7', "invalid octal integer")
      | 'b' => some (2, fun c => c == '0' || c == '1', "invalid binary integer")
      | _ => none
  match radix? with
  | some (radix, isDigit, label) =>
    skip 2
    let ds ← digitsWith isDigit label
    let v : Int := radixValue radix ds
    if !fits v then failAt start "number too large to fit in target type" true
    return .int v b (← byteHere)
  | none =>
    let whole ← decimalDigits "invalid integer"
    match whole with
    | none => failAt start "invalid integer" false
    | some whole =>
      let afterWhole ← get
      let fraction? ← if (← peek) == some '.' then
          skip 1
          match ← peek with
          | some c =>
            if c.isDigit then pure (some (← digitsWith Char.isDigit "invalid floating-point number"))
            else failHere "invalid floating-point number\nexpected digit" true
          | none => failHere "invalid floating-point number\nexpected digit" true
        else pure none
      let exponent? ← match ← peek with
        | some 'e' | some 'E' =>
          skip 1
          let expSign ← signHere
          match ← peek with
          | some c =>
            if c.isDigit then
              pure (some (expSign ++ String.ofList (← digitsWith Char.isDigit "invalid floating-point number")))
            else failHere "invalid floating-point number" true
          | none => failHere "invalid floating-point number" true
        | _ => pure none
      if fraction?.isNone && exponent?.isNone then
        modify fun _ => afterWhole
        let magnitude : Int := radixValue 10 whole
        let v := if sign == "-" then -magnitude else magnitude
        if !fits v then
          failAt start (if v < 0 then "number too small to fit in target type"
            else "number too large to fit in target type") true
        return .int v b (← byteHere)
      else
        let text := sign ++ String.ofList whole ++
          (match fraction? with
           | some f => "." ++ String.ofList f
           | none => "") ++
          (match exponent? with
           | some e => "e" ++ e
           | none => "")
        match (PluginLens.Decimal.readDouble? text).map PluginLens.Decimal.BinFloat.toFloat with
        | some f =>
          if f.isInf && f > 0 then failAt start "invalid floating-point number" true
          return .float f b (← byteHere)
        | none => failAt start "invalid floating-point number" true

/-- The value of exactly `n` ASCII digits at character `i`, if they are there. -/
def digitsAt (src : Source) (i n : Nat) : Option Nat :=
  (List.range n).foldlM (fun acc k =>
    let c := src.charAt (i + k)
    if !src.atEnd (i + k) && '0' ≤ c && c ≤ '9' then some (10 * acc + (c.toNat - '0'.toNat))
    else none) 0

/-- Reads a two-digit field from `lo` to `hi`. Missing digits fail with `label`, a number out
of range fails with `label` and the range complaint, both at the field's start. -/
def field (lo hi : Nat) (label : String) : Read Nat := do
  match digitsAt (← read) (← get) 2 with
  | none => failHere label true
  | some v =>
    if v < lo || hi < v then failHere (label ++ "\nvalue is out of range") true
    skip 2
    return v

def expectChar (c : Char) (label : String) : Read Unit := do
  unless (← peek) == some c do failHere label true
  skip 1

/-- The days of a month of the Gregorian calendar. -/
def daysInMonth (year month : Nat) : Nat :=
  if month == 2 then
    if year % 4 == 0 && (year % 100 != 0 || year % 400 == 0) then 29 else 28
  else if month == 4 || month == 6 || month == 9 || month == 11 then 30
  else 31

/-- Reads a time of day `hh:mm:ss` with an optional fraction of a second. Answers `false`,
with nothing read, when no hour from 00 to 23 followed by `:` is here; after that the rest
must follow, or reading fails with `label`. -/
def timeOfDay (label : String) : Read Bool := do
  let src ← read
  let i ← get
  match digitsAt src i 2 with
  | none => return false
  | some hour =>
    if hour > 23 || src.charAt (i + 2) != ':' || src.atEnd (i + 2) then return false
    skip 3
    let _ ← field 0 59 label
    expectChar ':' label
    let _ ← field 0 60 label
    if (← peek) == some '.' && (digitsAt src ((← get) + 1) 1).isSome then
      skip 1
      let j ← get
      skip (((List.range (src.size - j)).takeWhile fun k => (digitsAt src (j + k) 1).isSome).length)
    return true

/-- Reads a time offset `Z` or `+hh:mm`/`-hh:mm`, if one is here. -/
def timeOffset : Read Unit := do
  match ← peek with
  | some 'Z' | some 'z' => skip 1
  | some '+' | some '-' =>
    skip 1
    let label := "invalid time offset"
    let _ ← field 0 23 label
    expectChar ':' label
    let _ ← field 0 59 label
  | _ => pure ()

/-- Reads a date-time, a date or a time starting here: `none`, with nothing read, when the
text here starts none of them. Once a four-digit year and `-` are read it must be a date,
optionally followed by `T`, `t` or a space, a time and an offset; once an hour and `:` are
read it must be a time. -/
def datetime : Read (Option Value) := do
  let src ← read
  let start ← get
  let b ← byteHere
  let label := "invalid date-time"
  let finish : Read (Option Value) := do
    return some (.datetime (src.charsBetween start (← get)) b (← byteHere))
  match digitsAt src start 4 with
  | some year =>
    if src.charAt (start + 4) == '-' && !src.atEnd (start + 4) then
      skip 5
      let month ← field 1 12 label
      expectChar '-' label
      let dayStart ← get
      let day ← field 1 31 label
      if day > daysInMonth year month then
        failAt dayStart (label ++ "\nvalue is out of range") true
      let save ← get
      match ← peek with
      | some 'T' | some 't' | some ' ' =>
        skip 1
        if ← timeOfDay label then timeOffset else modify fun _ => save
      | _ => pure ()
      finish
    else if ← timeOfDay "invalid time" then finish
    else return none
  | none => if ← timeOfDay "invalid time" then finish else return none

def notAValue : String := "invalid string\nexpected `\"`, `'`"

/-- Reads the items of an array after its `[`, up to (not including) its `]`, each by
`item`. An item that is not a value ends the items. -/
def arrayItems (item : Read Value) : Read (List Value) := do
  let src ← read
  let mut items : Array Value := #[]
  for _ in [0:src.size + 1] do
    let save ← get
    if !items.isEmpty then
      if (← peek) == some ',' then skip 1 else return items.toList
    try
      skipBlankLines
      let v ← item
      skipBlankLines
      items := items.push v
    catch f =>
      if f.committed then throw f
      modify fun _ => save
      if !items.isEmpty && (← peek) == some ',' then skip 1
      return items.toList
  return items.toList

/-- Reads the pairs of an inline table after its brace, up to (not including) its closing
brace, each value by `item`: dotted keys with their values. -/
def inlinePairs (item : Read Value) : Read (List (List String × Value)) := do
  let src ← read
  let mut pairs : Array (List String × Value) := #[]
  for _ in [0:src.size + 1] do
    let save ← get
    if !pairs.isEmpty then
      if (← peek) == some ',' then skip 1 else return pairs.toList
    try
      let path ← keyPath
      unless (← peek) == some '=' do failHere "expected `.`, `=`" true
      skip 1
      skipBlanks
      let v ← item
      skipBlanks
      pairs := pairs.push (path, v)
    catch f =>
      if f.committed then throw f
      modify fun _ => save
      return pairs.toList
  return pairs.toList

/-- Reads a value; `depth` bounds the nesting of arrays and inline tables. -/
def value : Nat → Read Value
  | 0 => failHere "recursion limit exceeded" true
  | depth + 1 => do
    let b ← byteHere
    match ← peek with
    | none => failHere "" false
    | some '"' | some '\x27' =>
      let s ← anyString
      return .str s b (← byteHere)
    | some '[' =>
      skip 1
      let items ← arrayItems (value depth)
      skipBlankLines
      unless (← peek) == some ']' do failHere "invalid array\nexpected `]`" true
      skip 1
      return .array items b (← byteHere)
    | some '\x7b' =>
      skip 1
      let inside ← get
      let pairs ← inlinePairs (value depth)
      skipBlanks
      unless (← peek) == some '\x7d' do failHere "invalid inline table\nexpected `\x7d`" true
      skip 1
      match Entries.ofPairs pairs with
      | .ok es => return .table es .inline b (← byteHere)
      | .error c => failAt inside c.message true
    | some 't' =>
      if ← startsWith "true" then
        skip 4
        return .bool true b (← byteHere)
      failHere notAValue false
    | some 'f' =>
      if ← startsWith "false" then
        skip 5
        return .bool false b (← byteHere)
      failHere notAValue false
    | some 'i' | some 'n' =>
      if (← startsWith "inf") || (← startsWith "nan") then
        let isNan ← startsWith "nan"
        skip 3
        return .float (if isNan then 0.0 / 0.0 else 1.0 / 0.0) b (← byteHere)
      failHere notAValue false
    | some c =>
      if c.isDigit then
        match ← datetime with
        | some v => return v
        | none => number
      else if c == '+' || c == '-' then number
      else failHere notAValue false

def nestingLimit : Nat := 80

/-- A complaint about a table header: every failure in reading or placing a header, other
than one about its key, is reported as such. -/
def headerComplaint (message : String) : String := "invalid table header\n" ++ message

/-- Reads a table header after its `[`: the path, and whether it names an array of tables. -/
def header : Read (List String × Bool) := do
  let isArray := (← peek) == some '['
  if isArray then skip 1
  let path ← keyPath
  if isArray then
    unless ← startsWith "]]" do failHere (headerComplaint "expected `.`, `]]`") true
    skip 2
  else
    unless (← peek) == some ']' do failHere (headerComplaint "expected `.`, `]`") true
    skip 1
  return (path, isArray)

/-- Reads a whole document into its root table. -/
def document : Read Entries := do
  let src ← read
  if (← peek) == some '\uFEFF' then skip 1
  let mut root : Entries := []
  let mut current : List String := []
  for _ in [0:src.size + 2] do
    skipBlanks
    match ← peek with
    | none => return root
    | some '#' =>
      skipComment
      unless ← lineEnding do failHere "" true
    | some '\n' => skip 1
    | some '\r' =>
      if (← peekAt 1) == some '\n' then skip 2 else failHere "" true
    | some '[' =>
      let lineStart ← get
      let b ← byteHere
      skip 1
      let (path, isArray) ← header
      let e ← byteHere
      skipBlanks
      skipComment
      unless ← lineEnding do failHere (headerComplaint "expected newline, `#`") true
      match Entries.addHeader path isArray b e root with
      | .ok r =>
        root := r
        current := path
      | .error c => failAt lineStart (headerComplaint c.message) true
    | some _ =>
      let lineStart ← get
      let path ← keyPath
      unless (← peek) == some '=' do failHere "expected `.`, `=`" true
      skip 1
      skipBlanks
      let v ← value nestingLimit
      lineTrailing
      match path.getLast? with
      | some leaf =>
        match Entries.addPair current path.dropLast leaf v root with
        | .ok r => root := r
        | .error c => failAt lineStart c.message true
      | none => failAt lineStart "invalid key" true
  return root

end Read

/-- Reads a TOML document into its root table. -/
def parse (text : String) : Except TomlError Entries :=
  match (Read.document.run (Source.ofString text)).run 0 with
  | .ok (root, _) => .ok root
  | .error f => .error f.error

end PluginLens.Toml
