import PluginLens.Text.Blank

/-!
# Source text and byte offsets

Every span this library reports counts UTF-8 bytes, while reading a text steps through its
characters. A `Source` therefore keeps the characters in an array together with the byte
offset at which each one starts. `slice` reads a byte range back as text, refusing ranges
whose ends fall inside a character, and `lineCol` turns a byte offset into a 1-based line and
column counted in characters.
-/

namespace PluginLens.Text

def offsetsFrom (base : Nat) : List Char → List Nat
  | [] => [base]
  | c :: cs => base :: offsetsFrom (base + c.utf8Size) cs

/-- Counts of line feeds before each character of `cs`, starting from `base`, with one
closing entry. -/
def breaksFrom (base : Nat) : List Char → List Nat
  | [] => [base]
  | c :: cs => base :: breaksFrom (if c == '\n' then base + 1 else base) cs

/-- A text with constant-time access to its characters, their byte offsets and the line feeds
before them. -/
structure Source where
  text : String
  chars : Array Char
  /-- `offsets[i]` is the byte offset of character `i`; the last entry is the byte length. -/
  offsets : Array Nat
  /-- `breaks[i]` is the number of line feeds before character `i`; the last entry is the
  number in the whole text. -/
  breaks : Array Nat

namespace Source

def ofString (s : String) : Source :=
  { text := s, chars := s.toList.toArray, offsets := (offsetsFrom 0 s.toList).toArray,
    breaks := (breaksFrom 0 s.toList).toArray }

instance : Inhabited Source := ⟨ofString ""⟩

def size (src : Source) : Nat := src.chars.size

def byteSize (src : Source) : Nat := src.offsets.back?.getD 0

def charAt (src : Source) (i : Nat) : Char := src.chars.getD i '\x00'

def atEnd (src : Source) (i : Nat) : Bool := src.chars.size ≤ i

def byteAt (src : Source) (i : Nat) : Nat := src.offsets.getD i src.byteSize

/-- Binary search for the character index starting at byte `b`, within `[lo, hi)`. -/
def findIndex (offsets : Array Nat) (b : Nat) (lo hi : Nat) : Option Nat :=
  if h : lo < hi then
    let mid := (lo + hi) / 2
    let v := offsets.getD mid 0
    if v == b then some mid
    else if v < b then findIndex offsets b (mid + 1) hi
    else findIndex offsets b lo mid
  else none
termination_by hi - lo

def indexOfByte? (src : Source) (b : Nat) : Option Nat :=
  findIndex src.offsets b 0 src.offsets.size

def charsBetween (src : Source) (i j : Nat) : String :=
  String.ofList (src.chars.extract i j).toList

/-- The text of the byte range `[b, e)`, if the range is in order, ends within the text and
cuts no character. -/
def slice? (src : Source) (b e : Nat) : Option String :=
  match src.indexOfByte? b, src.indexOfByte? e with
  | some i, some j => if i ≤ j then some (src.charsBetween i j) else none
  | _, _ => none

/-- The text of the byte range `[b, e)`, or the empty text when the range is reversed, runs
past the end or cuts a character. -/
def slice (src : Source) (b e : Nat) : String := (src.slice? b e).getD ""

/-- Number of line feeds in the byte range `[b, e)`; none are counted when the range is
reversed, runs past the end or cuts a character. -/
def breaksIn (src : Source) (b e : Nat) : Nat :=
  match src.indexOfByte? b, src.indexOfByte? e with
  | some i, some j => if i ≤ j then src.breaks.getD j 0 - src.breaks.getD i 0 else 0
  | _, _ => 0

/-- The characters before byte `b` when `b` is a boundary, else all of them. -/
def charsBefore (src : Source) (b : Nat) : List Char :=
  match src.indexOfByte? (min b src.byteSize) with
  | some i => (src.chars.extract 0 i).toList
  | none => src.chars.toList

end Source

/-- The first index at or after `i` whose character fails `p` (or the end). -/
def skipWhile (src : Source) (p : Char → Bool) (i : Nat) : Nat :=
  go (src.size - i + 1) i
where
  go : Nat → Nat → Nat
    | 0, j => j
    | fuel + 1, j => if src.atEnd j then j else if p (src.charAt j) then go fuel (j + 1) else j

def startsWithCharsAt (src : Source) : Nat → List Char → Bool
  | _, [] => true
  | i, c :: cs => !src.atEnd i && src.charAt i == c && startsWithCharsAt src (i + 1) cs

def startsWithAt (src : Source) (i : Nat) (s : String) : Bool :=
  startsWithCharsAt src i s.toList

/-- Line and column, both 1-based, after the characters `before`: the line counts line feeds,
the column counts characters since the last one. -/
def lineColOf (before : List Char) : Nat × Nat :=
  (before.count '\n' + 1, (before.reverse.takeWhile (· != '\n')).length + 1)

/-- Line and column of a byte offset. An offset past the end counts as the end; one inside a
character makes the whole text count as before it. -/
def lineCol (src : Source) (b : Nat) : Nat × Nat :=
  lineColOf (src.charsBefore b)

end PluginLens.Text
