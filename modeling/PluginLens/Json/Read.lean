import PluginLens.Json.Value

/-!
# Reading JSON

A reader of JSON text, byte by byte. Objects come out with their keys in increasing order,
a repeated key keeping its last value. Integers stay integers while they fit in 64 bits;
other numbers, and `-0`, become doubles, computed as a significand of at most 64 bits scaled
step by step by powers of ten (so not always the nearest double).

A failure names what went wrong and where: the line (from 1) and the column, counted in
bytes from the start of the line, of the byte the reader stopped at. Some failures point
at the byte just read, others at the byte about to be read; the messages and positions are
the ones JSON tooling reports for the same text.
-/

namespace PluginLens.Json

/-- Why JSON text could not be read. -/
inductive ReadProblem where
  | eofWhileParsingList
  | eofWhileParsingObject
  | eofWhileParsingString
  | eofWhileParsingValue
  | expectedColon
  | expectedListCommaOrEnd
  | expectedObjectCommaOrEnd
  | expectedSomeIdent
  | expectedSomeValue
  | invalidEscape
  | invalidNumber
  | numberOutOfRange
  | controlCharacterInString
  | keyMustBeAString
  | loneLeadingSurrogate
  | trailingComma
  | trailingCharacters
  | unexpectedEndOfHexEscape
  | recursionLimitExceeded
  | custom (message : String)
  deriving DecidableEq, Inhabited, Repr

/-- The message of a problem. -/
def ReadProblem.message : ReadProblem → String
  | .eofWhileParsingList => "EOF while parsing a list"
  | .eofWhileParsingObject => "EOF while parsing an object"
  | .eofWhileParsingString => "EOF while parsing a string"
  | .eofWhileParsingValue => "EOF while parsing a value"
  | .expectedColon => "expected `:`"
  | .expectedListCommaOrEnd => "expected `,` or `]`"
  | .expectedObjectCommaOrEnd => "expected `,` or `\x7d`"
  | .expectedSomeIdent => "expected ident"
  | .expectedSomeValue => "expected value"
  | .invalidEscape => "invalid escape"
  | .invalidNumber => "invalid number"
  | .numberOutOfRange => "number out of range"
  | .controlCharacterInString => "control character (\\u0000-\\u001F) found while parsing a string"
  | .keyMustBeAString => "key must be a string"
  | .loneLeadingSurrogate => "lone leading surrogate in hex escape"
  | .trailingComma => "trailing comma"
  | .trailingCharacters => "trailing characters"
  | .unexpectedEndOfHexEscape => "unexpected end of hex escape"
  | .recursionLimitExceeded => "recursion limit exceeded"
  | .custom m => m

/-- A reading failure at a line and column. -/
structure ReadError where
  problem : ReadProblem
  line : Nat
  column : Nat
  deriving DecidableEq, Inhabited, Repr

def ReadError.message (e : ReadError) : String :=
  s!"{e.problem.message} at line {e.line} column {e.column}"

abbrev Reader := ReaderT ByteArray (StateT Nat (Except ReadError))

namespace Reader

/-- Line and column of byte index `i`. -/
def positionOf (bytes : ByteArray) (i : Nat) : Nat × Nat :=
  let before := (bytes.extract 0 i).toList
  let lineStart := match before.reverse.findIdx? (· == 10) with
    | some k => i - k
    | none => 0
  (1 + ((bytes.extract 0 lineStart).toList.filter (· == 10)).length, i - lineStart)

def failHere {α : Type} (p : ReadProblem) : Reader α := do
  let (line, column) := positionOf (← read) (← get)
  throw { problem := p, line, column }

/-- Fails at the byte after the index reached (at most the end). -/
def failAhead {α : Type} (p : ReadProblem) : Reader α := do
  let bytes ← read
  let (line, column) := positionOf bytes (min ((← get) + 1) bytes.size)
  throw { problem := p, line, column }

/-- The next byte, if any. -/
def peek : Reader (Option UInt8) := do
  let bytes ← read
  let i ← get
  return bytes[i]?

def eat : Reader Unit := modify (· + 1)

/-- Reads the next byte, if any. -/
def next : Reader (Option UInt8) := do
  let b ← peek
  if b.isSome then eat
  return b

/-- Skips blanks (space, tab, line feed, carriage return) and answers the byte after them. -/
def skipBlanks : Reader (Option UInt8) := do
  let bytes ← read
  modify fun i => go bytes (bytes.size + 1) i
  peek
where
  go (bytes : ByteArray) : Nat → Nat → Nat
    | 0, i => i
    | fuel + 1, i =>
      if i < bytes.size && [32, 9, 10, 13].contains (bytes[i]?.getD 0).toNat then go bytes fuel (i + 1) else i

/-- Reads the rest of a word such as `null` after its first byte. -/
def ident (rest : String) : Reader Unit := do
  for c in rest.toList do
    match ← next with
    | none => failHere .eofWhileParsingValue
    | some b => if b.toNat != c.toNat then failHere .expectedSomeIdent

/-- Reads four hexadecimal digits. -/
def hexQuad : Reader Nat := do
  let bytes ← read
  let i ← get
  if i + 4 > bytes.size then
    modify fun _ => bytes.size
    failHere .eofWhileParsingString
  modify (· + 4)
  let ds := (List.range 4).map fun k =>
    let c := Char.ofNat (bytes[i + k]?.getD 0).toNat
    if '0' ≤ c && c ≤ '9' then some (c.toNat - '0'.toNat)
    else if 'a' ≤ c && c ≤ 'f' then some (c.toNat - 'a'.toNat + 10)
    else if 'A' ≤ c && c ≤ 'F' then some (c.toNat - 'A'.toNat + 10)
    else none
  if ds.all Option.isSome then return ds.foldl (fun n d => 16 * n + d.getD 0) 0
  failHere .invalidEscape

/-- Reads a `\u` escape (after the `u`), joining a surrogate pair. -/
def unicodeEscape : Reader Char := do
  let n ← hexQuad
  if 0xDC00 ≤ n && n ≤ 0xDFFF then failHere .loneLeadingSurrogate
  if n < 0xD800 || n > 0xDBFF then return Char.ofNat n
  match ← peek with
  | some 92 => eat
  | some _ =>
    eat
    failHere .unexpectedEndOfHexEscape
  | none => failHere .eofWhileParsingString
  match ← peek with
  | some 117 => eat
  | some _ =>
    eat
    failHere .unexpectedEndOfHexEscape
  | none => failHere .eofWhileParsingString
  let m ← hexQuad
  if m < 0xDC00 || m > 0xDFFF then failHere .loneLeadingSurrogate
  return Char.ofNat ((n - 0xD800) * 0x400 + (m - 0xDC00) + 0x10000)

/-- Reads a string after its opening quote. -/
def string : Reader String := do
  let bytes ← read
  let mut acc : ByteArray := ByteArray.empty
  for _ in [0:bytes.size + 1] do
    match ← next with
    | none => failHere .eofWhileParsingString
    | some 34 => return (String.fromUTF8? acc).getD ""
    | some 92 =>
      match ← next with
      | none => failHere .eofWhileParsingString
      | some e =>
        let c : Option Char := match e.toNat with
          | 34 => some '"'
          | 92 => some '\\'
          | 47 => some '/'
          | 98 => some '\x08'
          | 102 => some '\x0c'
          | 110 => some '\n'
          | 114 => some '\r'
          | 116 => some '\t'
          | _ => none
        match c with
        | some c => acc := acc ++ (String.singleton c).toUTF8
        | none =>
          if e == 117 then acc := acc ++ (String.singleton (← unicodeEscape)).toUTF8
          else failHere .invalidEscape
    | some b =>
      if b < 32 then failHere .controlCharacterInString
      acc := acc.push b
  failHere .eofWhileParsingString

/-- The double `m · 10^e`, scaled step by step as the reader does. -/
def scaled (m : Nat) (e : Int) : Option Float :=
  go 4 m.toFloat e
where
  go : Nat → Float → Int → Option Float
    | 0, f, _ => some f
    | fuel + 1, f, e =>
      if e.natAbs ≤ 308 then
        let p := Float.ofScientific 1 false e.natAbs
        if e ≥ 0 then
          let g := f * p
          if g.isInf then none else some g
        else some (f / p)
      else if f == 0 then some f
      else if e ≥ 0 then none
      else go fuel (f / 1e308) (e + 308)

/-- Reads decimal digits, answering their values in order. -/
def digitList : Reader (List Nat) := do
  let bytes ← read
  let mut ds : Array Nat := #[]
  for _ in [0:bytes.size + 1] do
    match ← peek with
    | some b =>
      if 48 ≤ b && b ≤ 57 then
        eat
        ds := ds.push (b.toNat - 48)
      else return ds.toList
    | none => return ds.toList
  return ds.toList

def wordMax : Nat := Nat.pow 2 64 - 1

/-- Appends digits to a significand while it stays within 64 bits: the significand, and the
digits from the first one that would not fit. -/
def fitDigits (acc : Nat) : List Nat → Nat × List Nat
  | [] => (acc, [])
  | d :: ds => if acc * 10 + d > wordMax then (acc, d :: ds) else fitDigits (acc * 10 + d) ds

def exponentMax : Int := 2147483647

def addExponent (a b : Int) : Int := max (-exponentMax - 1) (min exponentMax (a + b))

/-- Reads a number whose sign (if negative) was read; `positive` tells which. The significand
keeps the digits that fit in 64 bits: integer digits beyond them only raise the exponent, and
fraction digits beyond them are dropped. -/
def number (positive : Bool) : Reader JsonNumber := do
  let first ← next
  let lead ← match first with
    | none => failHere .eofWhileParsingValue
    | some b => if 48 ≤ b && b ≤ 57 then pure (b.toNat - 48) else failHere .invalidNumber
  let wholeDigits ← if lead == 0 then
      match ← peek with
      | some b => if 48 ≤ b && b ≤ 57 then failAhead .invalidNumber else pure [0]
      | none => pure [0]
    else do
      pure (lead :: (← digitList))
  let (wholeSig, overflowed) := fitDigits 0 wholeDigits
  let mut significand := wholeSig
  let mut exponent : Int := overflowed.length
  let mut isFloat := !overflowed.isEmpty
  if (← peek) == some 46 then
    eat
    let fraction ← digitList
    if fraction.isEmpty then
      if (← peek).isSome then failAhead .invalidNumber else failAhead .eofWhileParsingValue
    let (fracSig, dropped) := fitDigits significand fraction
    significand := fracSig
    exponent := exponent - ((fraction.length - dropped.length : Nat) : Int)
    isFloat := true
  if (← peek) == some 101 || (← peek) == some 69 then
    eat
    let positiveExp ← match ← peek with
      | some 43 => do
        eat
        pure true
      | some 45 => do
        eat
        pure false
      | _ => pure true
    match ← peek with
    | none =>
      failHere .eofWhileParsingValue
    | some b =>
      if 48 ≤ b && b ≤ 57 then pure ()
      else
        eat
        failHere .invalidNumber
    let bytes ← read
    let mut e : Int := 0
    for _ in [0:bytes.size + 1] do
      match ← peek with
      | some b =>
        if 48 ≤ b && b ≤ 57 then
          eat
          let e' := 10 * e + (b.toNat - 48)
          if e' > exponentMax then
            -- an exponent beyond 32 bits: zero, or out of range when it grows the value
            if significand != 0 && positiveExp then failHere .numberOutOfRange
            let _ ← digitList
            return .float (if positive then 0.0 else -0.0)
          e := e'
        else break
      | none => break
    exponent := addExponent exponent (if positiveExp then e else -e)
    isFloat := true
  if isFloat then
    match scaled significand exponent with
    | some f => return .float (if positive then f else -f)
    | none => failHere .numberOutOfRange
  else if positive then return .int significand
  else if significand == 0 then return .float (-0.0)
  else if significand ≤ Nat.pow 2 63 then return .int (-(significand : Int))
  else return .float (-(Float.ofNat significand))

def depthLimit : Nat := 128

/-- Reads any value; an array or object may hold `depth - 1` more levels. -/
def value : Nat → Reader Json
  | 0 => failAhead .recursionLimitExceeded
  | depth + 1 => do
    match ← skipBlanks with
    | none => failAhead .eofWhileParsingValue
    | some 110 =>
      eat
      ident "ull"
      return .null
    | some 116 =>
      eat
      ident "rue"
      return .bool true
    | some 102 =>
      eat
      ident "alse"
      return .bool false
    | some 45 =>
      eat
      return .num (← number false)
    | some 34 =>
      eat
      return .str (← string)
    | some 91 =>
      if depth == 0 then failAhead .recursionLimitExceeded
      eat
      let bytes ← read
      let mut items : Array Json := #[]
      for _ in [0:bytes.size + 1] do
        match ← skipBlanks with
        | some 93 =>
          eat
          return .arr items.toList
        | some 44 =>
          if items.isEmpty then failAhead .expectedSomeValue
          eat
          match ← skipBlanks with
          | some 93 => failAhead .trailingComma
          | some _ => items := items.push (← value depth)
          | none => failAhead .eofWhileParsingValue
        | some _ =>
          if !items.isEmpty then failAhead .expectedListCommaOrEnd
          items := items.push (← value depth)
        | none => failAhead .eofWhileParsingList
      failAhead .eofWhileParsingList
    | some 123 =>
      if depth == 0 then failAhead .recursionLimitExceeded
      eat
      let bytes ← read
      let mut members : Array (String × Json) := #[]
      for _ in [0:bytes.size + 1] do
        let key? ← match ← skipBlanks with
          | some 125 =>
            eat
            pure none
          | some 44 =>
            if members.isEmpty then failAhead .keyMustBeAString
            eat
            match ← skipBlanks with
            | some 34 => do
              eat
              pure (some (← string))
            | some 125 => failAhead .trailingComma
            | some _ => failAhead .keyMustBeAString
            | none => failAhead .eofWhileParsingValue
          | some 34 =>
            if !members.isEmpty then failAhead .expectedObjectCommaOrEnd
            eat
            pure (some (← string))
          | some _ =>
            if !members.isEmpty then failAhead .expectedObjectCommaOrEnd
            failAhead .keyMustBeAString
          | none => failAhead .eofWhileParsingObject
        match key? with
        | none => return Json.sorted members.toList
        | some k =>
          match ← skipBlanks with
          | some 58 => eat
          | some _ => failAhead .expectedColon
          | none => failAhead .eofWhileParsingObject
          members := members.push (k, ← value depth)
      failAhead .eofWhileParsingObject
    | some b =>
      if 48 ≤ b && b ≤ 57 then return .num (← number true)
      failAhead .expectedSomeValue

def finish : Reader Unit := do
  if (← skipBlanks).isSome then failAhead .trailingCharacters

end Reader

/-- Reads a whole JSON text. -/
def parse (text : String) : Except ReadError Json :=
  match ((do let v ← Reader.value Reader.depthLimit; Reader.finish; pure v : Reader Json).run text.toUTF8).run 0 with
  | .ok (v, _) => .ok v
  | .error e => .error e

end PluginLens.Json
