import PluginLens.Json.Read
import PluginLens.Text.Quoted

/-!
# Requests to the inspection service

A request is one line of JSON holding a `command` string and, optionally, `params` of any
shape. It is decoded the way a typed JSON decoder reads a record with these two fields:

* from an object, taking the fields by name in any order, skipping unknown ones, refusing a
  field given twice and requiring `command` (`params` may be absent or `null`);
* from an array of exactly two elements, the command and the parameters, in that order.

A value of another shape fails with `invalid type`, naming what was found. Failures found by
the record's own checks (a missing or repeated field, a short array) point past the closing
bracket, or past the blanks where it was looked for; all others point where the reader
stopped. Nesting counts from the record itself, so the parameters may nest one level less
than a whole JSON text.
-/

namespace PluginLens.Service

open PluginLens.Json PluginLens.Json.Reader

/-- A decoded request. -/
structure Request where
  command : String
  params : Option Json
  deriving Inhabited

def recordName : String := "struct CommandReq"

def describeNumber : JsonNumber → String
  | .int i => "integer `" ++ toString i ++ "`"
  | .float f => "floating point `" ++ floatText f ++ "`"

/-- Fails because the value ahead is not `expected`. A scalar is read first, so that the
failure points past it; a bracket is not. -/
def mismatch {α : Type} (expected : String) : Reader α := do
  let found ← match ← peek with
    | some 110 => do
      eat
      ident "ull"
      pure "null"
    | some 116 => do
      eat
      ident "rue"
      pure "boolean `true`"
    | some 102 => do
      eat
      ident "alse"
      pure "boolean `false`"
    | some 45 => do
      eat
      pure (describeNumber (← number false))
    | some 34 => do
      eat
      pure ("string " ++ debugQuoted (← string))
    | some 91 => pure "sequence"
    | some 123 => pure "map"
    | some b =>
      if 48 ≤ b && b ≤ 57 then pure (describeNumber (← number true))
      else failAhead .expectedSomeValue
    | none => failAhead .expectedSomeValue
  failHere (.custom ("invalid type: " ++ found ++ ", expected " ++ expected))

/-- Reads a string value. -/
def stringValue : Reader String := do
  match ← skipBlanks with
  | some 34 =>
    eat
    string
  | some _ => mismatch "a string"
  | none => failAhead .eofWhileParsingValue

/-- Reads the parameters: `null` is none, anything else is a value nested at most `depth`
levels deep. -/
def paramsValue (depth : Nat) : Reader (Option Json) := do
  match ← skipBlanks with
  | some 110 =>
    eat
    ident "ull"
    pure none
  | _ => some <$> value depth

def skipValue : Reader Unit := do
  let bytes ← read
  let _ ← value (bytes.size + 1)

/-- Reads the colon after a key. -/
def colon : Reader Unit := do
  match ← skipBlanks with
  | some 58 => eat
  | some _ => failAhead .expectedColon
  | none => failAhead .eofWhileParsingObject

/-- Fails with a message of the record's own checks, first moving past blanks and, when it
follows them, the bracket `close`. -/
def failPast {α : Type} (close : UInt8) (message : String) : Reader α := do
  if (← skipBlanks) == some close then eat
  failHere (.custom message)

/-- What follows a key's opening position: the key, or a failure. -/
def keyAt : Option UInt8 → Reader (Option String)
  | some 34 => do
    eat
    some <$> string
  | some 125 => failAhead .trailingComma
  | some _ => failAhead .keyMustBeAString
  | none => failAhead .eofWhileParsingValue

/-- The next key of an object after its opening brace, or none at the closing brace (not yet
read); `first` tells whether no key was read before. -/
def nextKey (first : Bool) : Reader (Option String) := do
  match ← skipBlanks with
  | some 125 => pure none
  | some 44 =>
    if first then keyAt (some 44)
    else
      eat
      keyAt (← skipBlanks)
  | some b => if first then keyAt (some b) else failAhead .expectedObjectCommaOrEnd
  | none => failAhead .eofWhileParsingObject

/-- Reads the fields of a request object after its opening brace. -/
def fields (depth : Nat) : Reader Request := do
  let bytes ← read
  let mut command : Option String := none
  let mut params : Option (Option Json) := none
  let mut first := true
  for _ in [0:bytes.size + 1] do
    match ← nextKey first with
    | none =>
      eat
      match command with
      | some c => return { command := c, params := params.getD none }
      | none => failHere (.custom "missing field `command`")
    | some "command" =>
      if command.isSome then failPast 125 "duplicate field `command`"
      colon
      command := some (← stringValue)
    | some "params" =>
      if params.isSome then failPast 125 "duplicate field `params`"
      colon
      params := some (← paramsValue depth)
    | some _ =>
      colon
      skipValue
    first := false
  failAhead .eofWhileParsingObject

/-- What follows an element's opening position: the element read by `item`, or a failure. -/
def elementAt {α : Type} (item : Reader α) : Option UInt8 → Reader (Option α)
  | some 93 => failAhead .trailingComma
  | some _ => some <$> item
  | none => failAhead .eofWhileParsingValue

/-- The next element of an array after its opening bracket, read by `item`, or none at the
closing bracket (not yet read); `first` tells whether no element was read before. -/
def nextElement {α : Type} (first : Bool) (item : Reader α) : Reader (Option α) := do
  match ← skipBlanks with
  | some 93 => pure none
  | some 44 =>
    if first then elementAt item (some 44)
    else
      eat
      elementAt item (← skipBlanks)
  | some b => if first then elementAt item (some b) else failAhead .expectedListCommaOrEnd
  | none => failAhead .eofWhileParsingList

def shortArray (n : Nat) : String :=
  "invalid length " ++ toString n ++ ", expected " ++ recordName ++ " with 2 elements"

/-- Reads the closing bracket of a request array. -/
def closeArray : Reader Unit := do
  match ← skipBlanks with
  | some 93 => eat
  | some 44 =>
    eat
    if (← skipBlanks) == some 93 then failAhead .trailingComma
    else failAhead .trailingCharacters
  | some _ => failAhead .trailingCharacters
  | none => failAhead .eofWhileParsingList

/-- Reads the elements of a request array after its opening bracket. -/
def elements (depth : Nat) : Reader Request := do
  match ← nextElement true stringValue with
  | none => failPast 93 (shortArray 0)
  | some command =>
    match ← nextElement false (paramsValue depth) with
    | none => failPast 93 (shortArray 1)
    | some params =>
      closeArray
      pure { command, params }

/-- Reads a request, then requires that only blanks follow. -/
def request : Reader Request := do
  let r ← match ← skipBlanks with
    | some 123 =>
      eat
      fields (depthLimit - 1)
    | some 91 =>
      eat
      elements (depthLimit - 1)
    | some _ => mismatch recordName
    | none => failAhead .eofWhileParsingValue
  finish
  pure r

/-- Decodes a request line. -/
def Request.decode (text : String) : Except ReadError Request :=
  match (request.run text.toUTF8).run 0 with
  | .ok (r, _) => .ok r
  | .error e => .error e

end PluginLens.Service
