/-!
# Blank characters

Three different notions of "blank" meet in this library, and each is used where its rule
applies:

* `isWhite` is the Unicode `White_Space` property: it decides trimming of messages,
  doc-comment lines and configuration values, and splitting into words;
* `isSyntaxBlank` is what a JavaScript source may hold between tokens: `White_Space`,
  the space separators, and the byte-order mark, word joiner and zero-width space;
* `isAsciiSpace` is the narrow set the automatic-semicolon rule skips over: tab, line
  feed, vertical tab, form feed, carriage return and space.
-/

namespace PluginLens.Text

/-- The Unicode `White_Space` property. -/
def isWhite (c : Char) : Bool :=
  let n := c.toNat
  (0x09 ≤ n && n ≤ 0x0D) || n == 0x20 || n == 0x85 || n == 0xA0 || n == 0x1680 ||
    (0x2000 ≤ n && n ≤ 0x200A) || n == 0x2028 || n == 0x2029 || n == 0x202F ||
    n == 0x205F || n == 0x3000

/-- The general category `Zs`, space separators. -/
def isSpaceSeparator (c : Char) : Bool :=
  let n := c.toNat
  n == 0x20 || n == 0xA0 || n == 0x1680 || (0x2000 ≤ n && n ≤ 0x200A) || n == 0x202F ||
    n == 0x205F || n == 0x3000

def isSyntaxBlank (c : Char) : Bool :=
  isWhite c || isSpaceSeparator c || c.toNat == 0xFEFF || c.toNat == 0x2060 ||
    c.toNat == 0x200B

def isAsciiSpace (c : Char) : Bool :=
  c == ' ' || (0x09 ≤ c.toNat && c.toNat ≤ 0x0D)

def isLineBreak (c : Char) : Bool :=
  c == '\n' || c.toNat == 0x2028 || c.toNat == 0x2029

def trimStartWhite (s : String) : String :=
  String.ofList (s.toList.dropWhile isWhite)

def trimEndWhite (s : String) : String :=
  String.ofList (s.toList.reverse.dropWhile isWhite).reverse

def trimWhite (s : String) : String :=
  trimEndWhite (trimStartWhite s)

end PluginLens.Text
