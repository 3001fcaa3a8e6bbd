import PluginLens.Command.ByteStr

/-!
# Shell patterns

The patterns of `case`, of `${x#…}` and of file names: `*` matches any bytes, `?` one byte,
and a bracket expression `[…]` one byte of a set — listed bytes, ranges `a-z`, classes
`[:alpha:]` (of the C locale), negated by a leading `!`. A `]` right after the opening
bracket (or `[!`) is a member, and a bracket that is never closed is a plain `[`. A
backslash makes the next byte plain, and quoted bytes are always plain.
-/

namespace PluginLens.Command

open ByteStr

/-- A pattern byte: quoted bytes match only themselves. -/
structure PatChar where
  c : Char
  quoted : Bool
  deriving Inhabited, BEq, Repr

def PatChar.plainOf (s : ByteStr) : List PatChar := s.map fun c => { c, quoted := false }

def PatChar.literalOf (s : ByteStr) : List PatChar := s.map fun c => { c, quoted := true }

def classMember (name : String) (c : Char) : Option Bool :=
  let n := c.toNat
  let upper := 'A' ≤ c && c ≤ 'Z'
  let lower := 'a' ≤ c && c ≤ 'z'
  let digit := isDigit c
  let print := 0x20 ≤ n && n < 0x7f
  let graph := 0x20 < n && n < 0x7f
  match name with
  | "alnum" => some (upper || lower || digit)
  | "alpha" => some (upper || lower)
  | "cntrl" => some (n < 0x20 || n == 0x7f)
  | "lower" => some lower
  | "upper" => some upper
  | "space" => some (isSpace c)
  | "digit" => some digit
  | "print" => some print
  | "blank" => some (c == ' ' || c == '\t')
  | "graph" => some graph
  | "punct" => some (graph && !(upper || lower || digit))
  | "xdigit" => some ((hexValue? c).isSome)
  | _ => none

/-- A class name `[:name:]` at the start of the pattern bytes after a `[`: its name and the
bytes after it. -/
def classAt? (ps : List PatChar) : Option (String × List PatChar) :=
  match ps with
  | ⟨':', _⟩ :: rest =>
    let name := rest.takeWhile fun p => p.c != ':'
    match rest.drop name.length with
    | ⟨':', _⟩ :: ⟨']', _⟩ :: after =>
      let n := String.ofList (name.map (·.c))
      if (classMember n 'a').isSome then some (n, after) else none
    | _ => none
  | _ => none

/-- Reads the members of a bracket expression after its first member `c` (already taken),
deciding whether `chr` is in it: answers whether it was found and the pattern after the
closing `]`, or `none` when the bracket is never closed. -/
def bracketLoop (chr : Char) : Nat → PatChar → List PatChar → Bool → Option (Bool × List PatChar)
  | 0, _, _, _ => none
  | fuel + 1, c, ps, found =>
    -- one member starting with `c`
    let (found, ps, ok) : Bool × List PatChar × Bool :=
      if c.c == '[' && !c.quoted then
        match classAt? ps with
        | some (n, after) => (found || (classMember n chr).getD false, after, true)
        | none => (found, ps, false)
      else (found, ps, false)
    let step : Option (Bool × List PatChar) :=
      if ok then some (found, ps)
      else
        let (lo, ps) : Char × List PatChar :=
          if c.c == '\\' && !c.quoted then
            match ps with
            | d :: rest => (d.c, rest)
            | [] => ('\\', [])
          else (c.c, ps)
        match ps with
        | ⟨'-', false⟩ :: hi :: rest =>
          if hi.c == ']' && !hi.quoted then some (found || chr == lo, ps)
          else
            let (hiC, rest) := if hi.c == '\\' && !hi.quoted then
                match rest with
                | d :: r => (d.c, r)
                | [] => ('\\', [])
              else (hi.c, rest)
            some (found || (lo ≤ chr && chr ≤ hiC), rest)
        | _ => some (found || chr == lo, ps)
    match step with
    | none => none
    | some (found, ps) =>
      match ps with
      | [] => none
      | p :: rest =>
        if p.c == ']' && !p.quoted then some (found, rest)
        else bracketLoop chr fuel p rest found

/-- Matches a bracket expression (the pattern after `[`) against byte `chr`: answers
whether it matched and the pattern after it, or `none` when the bracket is not closed. -/
def bracketMatch (chr : Char) (ps : List PatChar) : Option (Bool × List PatChar) :=
  let (invert, ps) := match ps with
    | ⟨'!', false⟩ :: rest => (true, rest)
    | _ => (false, ps)
  match ps with
  | [] => none
  | c :: rest =>
    match bracketLoop chr (rest.length + 1) c rest false with
    | some (found, after) => some (found != invert, after)
    | none => none

def patternMatches : Nat → List PatChar → ByteStr → Bool
  | 0, _, _ => false
  | _ + 1, [], s => s.isEmpty
  | fuel + 1, p :: ps, s =>
    if p.quoted then
      match s with
      | c :: rest => c == p.c && patternMatches fuel ps rest
      | [] => false
    else match p.c with
      | '\\' =>
        let (lit, ps) := match ps with
          | d :: rest => (d.c, rest)
          | [] => ('\\', [])
        match s with
        | c :: rest => c == lit && patternMatches fuel ps rest
        | [] => false
      | '?' =>
        match s with
        | _ :: rest => patternMatches fuel ps rest
        | [] => false
      | '*' =>
        let ps := ps.dropWhile fun q => q.c == '*' && !q.quoted
        (List.range (s.length + 1)).any fun k => patternMatches fuel ps (s.drop k)
      | '[' =>
        match s with
        | [] => false
        | c :: rest =>
          match bracketMatch c ps with
          | some (found, after) => found && patternMatches fuel after rest
          | none => c == '[' && patternMatches fuel ps rest
      | d =>
        match s with
        | c :: rest => c == d && patternMatches fuel ps rest
        | [] => false

def patMatch (pat : List PatChar) (s : ByteStr) : Bool :=
  patternMatches (pat.length + s.length + 2) pat s

/-- Whether a pattern has bytes that match more than themselves, so that it is worth
listing a directory for. A `[` counts only when a `]` closes it. -/
def hasMeta (pat : List PatChar) : Bool :=
  go pat
where
  go : List PatChar → Bool
    | [] => false
    | p :: rest =>
      if p.quoted then go rest
      else match p.c with
        | '*' | '?' => true
        | '[' => rest.any (fun q => q.c == ']' && !q.quoted) || go rest
        | '\\' =>
          match rest with
          | _ :: more => go more
          | [] => false
        | _ => go rest

end PluginLens.Command
