import PluginLens.Command.Outcome

/-!
# Byte strings

The shell and the small programs work on bytes, not on Unicode text: a script is the bytes of
its UTF-8 text, `printf '\377'` prints one byte, and `${#x}` counts bytes. A byte string is
kept as a list of characters, each standing for one byte (its code is below 256), so that
scripts can be read with ordinary character patterns. Text enters as the bytes of its UTF-8
form and leaves as a byte array.
-/

namespace PluginLens.Command

abbrev ByteStr := List Char

namespace ByteStr

def ofString (s : String) : ByteStr := s.toUTF8.toList.map fun b => Char.ofNat b.toNat

def ofBytes (b : ByteArray) : ByteStr := b.toList.map fun b => Char.ofNat b.toNat

def toBytes (s : ByteStr) : ByteArray := ⟨(s.map fun c => c.toNat.toUInt8).toArray⟩

def toString? (s : ByteStr) : Option String := String.fromUTF8? s.toBytes

def lossy (s : ByteStr) : String := lossyText s.toBytes

def ofNat (n : Nat) : ByteStr := (toString n).toList

def ofInt (i : Int) : ByteStr := (toString i).toList

def isDigit (c : Char) : Bool := '0' ≤ c && c ≤ '9'

def isAlpha (c : Char) : Bool := ('a' ≤ c && c ≤ 'z') || ('A' ≤ c && c ≤ 'Z')

def isNameStart (c : Char) : Bool := isAlpha c || c == '_'

def isNameChar (c : Char) : Bool := isAlpha c || isDigit c || c == '_'

def isName (s : ByteStr) : Bool :=
  match s with
  | c :: rest => isNameStart c && rest.all isNameChar
  | [] => false

/-- Whether a byte is white space in the C locale: space, tab, newline, vertical tab, form
feed or carriage return. -/
def isSpace (c : Char) : Bool :=
  c == ' ' || c == '\t' || c == '\n' || c == '\x0b' || c == '\x0c' || c == '\r'

def hexValue? (c : Char) : Option Nat :=
  if isDigit c then some (c.toNat - '0'.toNat)
  else if 'a' ≤ c && c ≤ 'f' then some (c.toNat - 'a'.toNat + 10)
  else if 'A' ≤ c && c ≤ 'F' then some (c.toNat - 'A'.toNat + 10)
  else none

def isOctal (c : Char) : Bool := '0' ≤ c && c ≤ '7'

def byte (n : Nat) : Char := Char.ofNat (n % 256)

def startsWith (s p : ByteStr) : Bool := s.take p.length == p

def intercalate (sep : ByteStr) : List ByteStr → ByteStr
  | [] => []
  | [s] => s
  | s :: rest => s ++ sep ++ intercalate sep rest

def trimBy (f : Char → Bool) (s : ByteStr) : ByteStr :=
  ((s.dropWhile f).reverse.dropWhile f).reverse

/-- Whether `a` sorts no later than `b` in byte order: the first byte that differs decides, and
a prefix comes first. -/
def bytesLE : ByteStr → ByteStr → Bool
  | [], _ => true
  | _ :: _, [] => false
  | a :: as, b :: bs => if a.toNat == b.toNat then bytesLE as bs else a.toNat < b.toNat

end ByteStr

end PluginLens.Command
