/-!
# TOML documents

A TOML document is a table: keys in the order they were first given, each mapped to a
string, integer, float, boolean, date-time (kept as written), array or table. Every value remembers the bytes of the
document it was read from, so that a complaint about a value can point at it.

A complaint is a `TomlError`: a message and the bytes it is about. It is shown the way
configuration tools show it: the line and column (the column counted in characters), the
line itself, and carets under the bytes, followed by the message.
-/

namespace PluginLens.Toml

/-- How a table came to be: by a `[header]`, implied by a deeper header, by a dotted key,
or written inline with braces. -/
inductive TableOrigin where
  | header
  | implicit
  | dotted
  | inline
  deriving DecidableEq, Inhabited, Repr

/-- A TOML value with the byte range `[start, stop)` it was read from. -/
inductive Value where
  | str (s : String) (start stop : Nat)
  | int (i : Int) (start stop : Nat)
  | float (f : Float) (start stop : Nat)
  | bool (b : Bool) (start stop : Nat)
  | datetime (text : String) (start stop : Nat)
  | array (items : List Value) (start stop : Nat)
  | table (entries : List (String × Value)) (origin : TableOrigin) (start stop : Nat)
  deriving Inhabited

namespace Value

def start : Value → Nat
  | str _ s _ | int _ s _ | float _ s _ | bool _ s _ | datetime _ s _ | array _ s _
  | table _ _ s _ => s

def stop : Value → Nat
  | str _ _ e | int _ _ e | float _ _ e | bool _ _ e | datetime _ _ e | array _ _ e
  | table _ _ _ e => e

end Value

/-- A complaint about a document: a message and the bytes `[start, stop)` it is about. -/
structure TomlError where
  message : String
  start : Nat
  stop : Nat
  deriving DecidableEq, Inhabited, Repr

/-- Line (from 0) and column (from 0, in characters) of byte `index` of `bytes`. The column
is counted in bytes when the line up to and including that byte is not whole UTF-8; an
index at or past the end counts on from the last byte. -/
def position (bytes : ByteArray) (index : Nat) : Nat × Nat :=
  if bytes.size == 0 then (0, index)
  else
    let safe := min index (bytes.size - 1)
    let beyond := index - safe
    let before := (bytes.extract 0 safe).toList
    let lineStart := match before.reverse.findIdx? (· == 10) with
      | some k => safe - k
      | none => 0
    let line := ((bytes.extract 0 lineStart).toList.filter (· == 10)).length
    let upTo := bytes.extract lineStart (safe + 1)
    let column := match String.fromUTF8? upTo with
      | some s => s.length - 1
      | none => safe - lineStart
    (line, column + beyond)

/-- The error as shown to a reader of the document `text`. -/
def TomlError.render (e : TomlError) (text : String) : String :=
  let (line, column) := position text.toUTF8 e.start
  let number := toString (line + 1)
  let gutter := String.ofList (List.replicate (number.length + 1) ' ')
  let content := ((text.splitOn "\n").drop line).head?.getD ""
  let width := min (e.stop - e.start) (content.utf8ByteSize - column)
  let carets := String.ofList (List.replicate (max width 1) '^')
  s!"TOML parse error at line {line + 1}, column {column + 1}\n" ++
    gutter ++ "|\n" ++
    number ++ " | " ++ content ++ "\n" ++
    gutter ++ "|" ++ String.ofList (List.replicate (column + 1) ' ') ++ carets ++ "\n" ++
    e.message ++ "\n"

end PluginLens.Toml
