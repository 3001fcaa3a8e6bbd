import PluginLens.Syntax.Node
import PluginLens.Text.Source
import PluginLens.Decimal.Read

/-!
# Values of literal nodes

The cooked value of a string literal, and the property name a key stands for: a name as
written, a string's value, or a number's canonical text (`0x10` names property `16`).
-/

namespace PluginLens.Syntax

open PluginLens.Text PluginLens.Decimal

/-- The digit value of a hexadecimal digit. -/
def hexValue? (c : Char) : Option Nat :=
  if '0' ≤ c && c ≤ '9' then some (c.toNat - '0'.toNat)
  else if 'a' ≤ c && c ≤ 'f' then some (c.toNat - 'a'.toNat + 10)
  else if 'A' ≤ c && c ≤ 'F' then some (c.toNat - 'A'.toNat + 10)
  else none

/-- The value of digits in base `radix` (up to 16), allowing one leading `+`; `none` for an
empty or malformed run. -/
def radixValue? (radix : Nat) (cs : List Char) : Option Nat :=
  let cs := match cs with
    | '+' :: r => r
    | r => r
  if cs.isEmpty then none
  else cs.foldlM (fun n c => (hexValue? c).bind fun d => if d < radix then some (radix * n + d) else none) 0

def scalar? (n : Nat) : Option Char :=
  if n < 0xD800 || (0xDFFF < n && n < 0x110000) then some (Char.ofNat n) else none

/-- The text an escape sequence `\…` stands for inside a string. Simple escapes give their
character, `\0` alone gives NUL, a line continuation gives nothing, `\x` and `\u` give the
character of their hexadecimal digits (or the escape itself when those name no character),
and any other escape gives its text without the backslash. -/
def unescape (escape : String) : String :=
  let body := match escape.toList with
    | '\\' :: r => r
    | r => r
  match body with
  | [] => ""
  | first :: rest =>
    match first with
    | 'n' => "\n"
    | 't' => "\t"
    | 'r' => "\r"
    | 'b' => String.singleton (Char.ofNat 8)
    | 'f' => String.singleton (Char.ofNat 12)
    | 'v' => String.singleton (Char.ofNat 11)
    | '\n' | '\r' | '\u2028' | '\u2029' => ""
    | _ =>
      if first == '0' && rest.isEmpty then String.singleton (Char.ofNat 0)
      else
        let hex : Option (List Char) :=
          if first == 'x' then some rest
          else if first == 'u' then
            some ((rest.dropWhile (· == '\x7b')).reverse.dropWhile (· == '\x7d')).reverse
          else none
        match hex with
        | some h =>
          match (radixValue? 16 h).bind fun n => if n < Nat.pow 2 32 then scalar? n else none with
          | some c => String.singleton c
          | none => escape
        | none => String.ofList body

/-- The cooked value of a string node: its fragments, with escapes read. -/
def stringValue (src : Source) (n : Node) : String :=
  n.namedChildren.foldl (fun acc part =>
    if part.kind == "string_fragment" then acc ++ src.slice part.start part.stop
    else if part.kind == "escape_sequence" then acc ++ unescape (src.slice part.start part.stop)
    else acc) ""

/-- The double a number key's text stands for: separators dropped, then hexadecimal, octal or
binary digits read as a 64-bit integer and anything else as a decimal, both rounded to a
double; `none` for text that reads as neither. -/
def keyValue? (raw : String) : Option BinFloat :=
  let lower := (raw.toList.filter (· != '_')).map Char.toLower
  let prefixed : Option (Nat × List Char) :=
    match lower with
    | '0' :: 'x' :: r => some (16, r)
    | '0' :: 'o' :: r => some (8, r)
    | '0' :: 'b' :: r => some (2, r)
    | _ => none
  match prefixed with
  | some (radix, digits) =>
    (radixValue? radix digits).bind fun n =>
      if n < Nat.pow 2 64 then some (roundRational .double false n 1).1 else none
  | none => readDouble? (String.ofList lower)

/-- The text a double names a property by: an integral double below `10^21` as an integer,
any other double positionally. -/
def keyText (v : BinFloat) : String :=
  match v.integer? with
  | some i => if i.natAbs < Nat.pow 10 21 then toString i else v.plainText
  | none => v.plainText

/-- The canonical property name of a number key: the text of the double it stands for, or the
key as written when it stands for none. -/
def numericKey (raw : String) : String :=
  ((keyValue? raw).map keyText).getD raw

/-- The static name of a property key; `none` for a computed key. -/
def keyName (src : Source) (key : Node) : Option String :=
  match key.kind with
  | "property_identifier" | "identifier" | "private_property_identifier" =>
    some (src.slice key.start key.stop)
  | "string" => some (stringValue src key)
  | "number" => some (numericKey (src.slice key.start key.stop))
  | _ => none

end PluginLens.Syntax
