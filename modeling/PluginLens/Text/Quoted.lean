import PluginLens.Decimal.Shortest
import PluginLens.Text.Printable

/-!
# Values as decoding messages name them

A decoder that meets a value of the wrong type names what it found: a string as a quoted
literal, a double positionally with `.0` when it has no point.
-/

namespace PluginLens

/-- Text of a string as a quoted literal: quotes, backslashes, tab, line feed, carriage
return and NUL escaped by a backslash, and the characters of `escapedInLiteral` as
`\u{hex}`. -/
def debugQuoted (s : String) : String :=
  let escaped := s.toList.flatMap fun c =>
    match c with
    | '"' => ['\\', '"']
    | '\\' => ['\\', '\\']
    | '\n' => ['\\', 'n']
    | '\r' => ['\\', 'r']
    | '\t' => ['\\', 't']
    | '\x00' => ['\\', '0']
    | c =>
      if Text.escapedInLiteral c then
        "\\u\x7b".toList ++ (Nat.toDigits 16 c.toNat) ++ ['\x7d']
      else [c]
  "\"" ++ String.ofList escaped ++ "\""

def floatText (f : Float) : String :=
  let t := Decimal.plainText f
  if f.isNaN || f.isInf || t.contains '.' then t else t ++ ".0"

end PluginLens
