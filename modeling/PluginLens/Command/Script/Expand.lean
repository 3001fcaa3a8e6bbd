import PluginLens.Command.Script.State
import PluginLens.Command.Script.Pattern
import PluginLens.Command.Script.Arith

/-!
# Word expansion

A word of a script becomes fields in three steps. First its parts are expanded into a
sequence of bits: bytes that remember whether they were quoted and from which unquoted
expansion (a *region*) they came, and marks where pairs of quotes stood. Then the bits are
split into fields, at separator bytes (`IFS`) inside regions only: white-space separators
gather and are dropped at the ends of a field, other separators end a field even when it is
empty. Last, each field that holds an unquoted `*`, `?` or closed `[` is matched against the
names in the workspace, and the quotes are removed.

`"$@"` keeps the parameters apart with NUL bytes in a region of its own, where only NUL
separates and every parameter is a field, even an empty one. Unquoted `$@` and `$*` separate
the parameters with NUL too, which there counts as white space, so empty parameters vanish.

Assignments, redirection targets, `case` subjects and here-documents are expanded without
splitting or matching (`expandText`); patterns keep which bytes were quoted
(`expandPattern`).

A command substitution is run by a function the caller passes in (`Runner`), which answers
what the commands wrote with the trailing newlines removed.
-/

namespace PluginLens.Command

open ByteStr Sh

/-- A byte of an expanded word, or the place of a pair of quotes. -/
inductive Bit where
  /-- A byte: quoted bytes are neither separators nor pattern characters; `region` is the
  unquoted expansion it came from, `0` for none. -/
  | char (c : Char) (quoted : Bool) (region : Nat)
  | mark
  deriving BEq, Inhabited, Repr

/-- An expansion in progress. -/
structure Expanding where
  /-- The bits so far, latest first. -/
  bits : List Bit := []
  /-- How many regions were recorded. -/
  regions : Nat := 0
  /-- The regions of `"$@"`, where only NUL separates. -/
  nulOnly : List Nat := []
  /-- Whether the latest region recorded is one of `"$@"`. -/
  lastNulOnly : Bool := false
  /-- Whether the word will be split into fields. -/
  full : Bool

abbrev Exp := StateT Expanding Sh

abbrev Runner := Option Cmd → Sh ByteStr

def Bit.text (bs : List Bit) : ByteStr :=
  bs.filterMap fun
    | .char c _ _ => some c
    | .mark => none

def Bit.pattern (bs : List Bit) : List PatChar :=
  bs.filterMap fun
    | .char c q _ => some { c, quoted := q }
    | .mark => none

def emitBytes (s : ByteStr) (quoted : Bool) (region : Nat) : Exp Unit :=
  modify fun st => { st with bits := (s.map fun c => Bit.char c quoted region).reverse ++ st.bits }

def newRegion (nulOnly : Bool) : Exp Nat := do
  let st ← get
  let r := st.regions + 1
  set { st with regions := r, lastNulOnly := nulOnly,
                nulOnly := if nulOnly then r :: st.nulOnly else st.nulOnly }
  return r

/-- Adds the value of an expansion: quoted inside double quotes, else in a region of its
own. -/
def emitValue (v : ByteStr) (inQuotes : Bool) : Exp Unit := do
  if inQuotes then emitBytes v true 0
  else
    let r ← newRegion false
    emitBytes v false r

def relabel (k r : Nat) (bs : List Bit) : List Bit :=
  (bs.take k).map (fun
    | .char c q _ => .char c q r
    | .mark => .mark) ++ bs.drop k

def scalarValue? (p : Proc) (name : ByteStr) : Option ByteStr :=
  match name with
  | ['?'] => some (ofNat p.status)
  | ['$'] => some (ofNat p.shellPid)
  | ['#'] => some (ofNat p.params.length)
  | ['!'] => p.lastBackground.map ofNat
  | ['-'] => some p.flagText
  | ['0'] => some p.arg0
  | _ =>
    if name.all isDigit && !name.isEmpty then
      let n := name.foldl (fun n c => 10 * n + (c.toNat - '0'.toNat)) 0
      if n == 0 then some p.arg0 else p.params[n - 1]?
    else p.value? name

/-- The positional parameters joined for `$@` and `$*`: the separator byte, if any, and
whether the parameters are kept apart as in `"$@"`. -/
def listSeparator (p : Proc) (star inQuotes full : Bool) : Option Char × Bool :=
  if !star && inQuotes && full then (some '\x00', true)
  else if !inQuotes && full then (some '\x00', false)
  else match p.value? "IFS".toList with
    | some (c :: _) => (some c, false)
    | some [] => (none, false)
    | none => (some ' ', false)

def isListParam (name : ByteStr) : Bool := name == ['@'] || name == ['*']

def dropMatchingPrefix (pat : List PatChar) (longest : Bool) (v : ByteStr) : ByteStr :=
  let ks := List.range (v.length + 1)
  let ks := if longest then ks.reverse else ks
  match ks.find? fun k => patMatch pat (v.take k) with
  | some k => v.drop k
  | none => v

def dropMatchingSuffix (pat : List PatChar) (longest : Bool) (v : ByteStr) : ByteStr :=
  let ks := List.range (v.length + 1)
  let ks := if longest then ks.reverse else ks
  match ks.find? fun k => patMatch pat (v.drop (v.length - k)) with
  | some k => v.take (v.length - k)
  | none => v

def arithMessage (text : ByteStr) : ArithError → ByteStr
  | .malformed msg => "arithmetic expression: ".toList ++ msg.toList ++ ": \"".toList ++ text ++ ['"']
  | .illegalNumber v => "Illegal number: ".toList ++ v

def isolated (full : Bool) (m : Exp Unit) : Exp (List Bit) := do
  let saved ← get
  set ({ full } : Expanding)
  m
  let bits := (← get).bits.reverse
  set saved
  return bits

mutual

def expandParts (run : Runner) : Nat → List WordPart → Exp Unit
  | 0, _ => throw .exhausted
  | fuel + 1, parts => do
    for part in parts do
      match part with
      | .lit s => emitBytes s false 0
      | .quoted s => emitBytes s true 0
      | .quoteMark => modify fun st => { st with bits := .mark :: st.bits }
      | .param name op arg q => expandParam run fuel name op arg q
      | .subst body q =>
        let text ← run body
        emitValue text q
      | .arith e q =>
        let text := Bit.text (← isolated false (expandParts run fuel e))
        let p ← getProc
        match evalArith p.value? text with
        | .ok (v, assigns) =>
          for (n, val) in assigns do setVar n (ofInt val)
          emitValue (ofInt v) q
        | .error e => fail (arithMessage text e)

def expandParam (run : Runner) : Nat → ByteStr → ParamOp → List WordPart → Bool → Exp Unit
  | 0, _, _, _, _ => throw .exhausted
  | fuel + 1, name, op, arg, q => do
    let p ← getProc
    let full := (← get).full
    let list := isListParam name
    let value? : Option ByteStr :=
      if list then
        let (sep, _) := listSeparator p (name == ['*']) q full
        some (ByteStr.intercalate (sep.toList) p.params)
      else scalarValue? p name
    let isSet (colon : Bool) : Bool :=
      match value? with
      | some v => !colon || !v.isEmpty
      | none => false
    let unsetError : Exp Unit :=
      if value?.isNone && p.flag 'u' then fail (name ++ ": parameter not set".toList) else pure ()
    -- the value itself, with `$@` and `$*` keeping their separators
    let emitOwn : Exp Unit := do
      if list then
        let (sep, apart) := listSeparator p (name == ['*']) q full
        let text := ByteStr.intercalate sep.toList p.params
        if apart then
          if p.params.isEmpty then pure ()
          else
            let r ← newRegion true
            emitBytes text true r
        else emitValue text q
      else emitValue (value?.getD []) q
    match op with
    | .plain =>
      unsetError
      emitOwn
    | .length =>
      unsetError
      emitValue (ofNat (value?.getD []).length) q
    | .orDefault colon | .ifSet colon =>
      let useWord := match op with
        | .ifSet _ => isSet colon
        | _ => !isSet colon
      if !useWord then
        match op with
        | .ifSet _ => pure ()
        | _ => emitOwn
      else
        let before := (← get).bits.length
        expandParts run fuel arg
        if !q then
          let r ← newRegion false
          modify fun st => { st with bits := relabel (st.bits.length - before) r st.bits }
    | .orAssign colon =>
      if isSet colon then emitOwn
      else
        let text := Bit.text (← isolated false (expandParts run fuel arg))
        if !isName name then fail (name ++ ": bad variable name".toList)
        setVar name text
        emitValue text q
    | .orFail colon =>
      if isSet colon then emitOwn
      else if arg.isEmpty then
        fail (name ++ ": parameter not set".toList ++ (if colon then " or null".toList else []))
      else
        let text := Bit.text (← isolated false (expandParts run fuel arg))
        fail (name ++ ": ".toList ++ text)
    | .dropPrefix longest | .dropSuffix longest =>
      unsetError
      let pat := Bit.pattern (← isolated false (expandParts run fuel arg))
      let v := value?.getD []
      let r := match op with
        | .dropPrefix _ => dropMatchingPrefix pat longest v
        | _ => dropMatchingSuffix pat longest v
      emitValue r q
    | .bad => fail "Bad substitution".toList

end

/-- The state of splitting bits into fields. -/
structure Splitter where
  /-- Finished fields, latest first, each in order. -/
  fields : List (List Bit) := []
  /-- The field being read, latest bit first. -/
  cur : List Bit := []
  /-- The region of the previous bit. -/
  region : Nat := 0
  /-- Whether the latest separator was white space. -/
  white : Bool := false
  /-- Whether separators right after a field's end are being passed over. -/
  skipping : Bool := false

def Splitter.close (st : Splitter) : Splitter :=
  { st with fields := st.cur.reverse :: st.fields, cur := [] }

def Splitter.step (ifs : ByteStr) (nulOnly : Nat → Bool) (st : Splitter) (b : Bit) : Splitter :=
  match b with
  | .mark => { st with cur := b :: st.cur, region := 0, skipping := false }
  | .char c q r =>
    if r == 0 then { st with cur := b :: st.cur, region := 0, skipping := false }
    else
      let st := if r != st.region then { st with white := false, skipping := false, region := r }
        else st
      let nul := nulOnly r
      let isSep := c == '\x00' || (!nul && !q && ifs.contains c)
      let isWhite := c == '\x00' || defaultIfs.contains c
      -- after a field's end: white space, and one other separator after white space, go
      let passed : Option Splitter :=
        if !st.skipping then none
        else if !isSep then none
        else if !isWhite then (if st.white then some { st with white := false } else none)
        else some st
      match passed with
      | some st => st
      | none =>
        let st := { st with skipping := false }
        if isSep then
          let white := if nul then st.white else isWhite
          if st.cur.isEmpty && white then { st with white }
          else { st.close with white, skipping := !nul }
        else { st with cur := b :: st.cur }

def splitFields (ifs : ByteStr) (e : Expanding) (bits : List Bit) : List (List Bit) :=
  let st := bits.foldl (Splitter.step ifs (fun r => e.nulOnly.contains r)) {}
  let st := if e.lastNulOnly || !st.cur.isEmpty then st.close else st
  st.fields.reverse

def patternComponents (pat : List PatChar) : List (List PatChar) :=
  go pat.length pat [] []
where
  go : Nat → List PatChar → List PatChar → List (List PatChar) → List (List PatChar)
    | 0, _, cur, acc => (cur.reverse :: acc).reverse
    | _ + 1, [], cur, acc => (cur.reverse :: acc).reverse
    | n + 1, p :: rest, cur, acc =>
      if p.c == '/' then go n rest [] (cur.reverse :: acc) else go n rest (p :: cur) acc

/-- The bytes a pattern component stands for when it has no pattern characters: the
escaping backslashes removed. -/
def literalOf (pat : List PatChar) : ByteStr :=
  go pat.length pat
where
  go : Nat → List PatChar → ByteStr
    | 0, _ => []
    | _ + 1, [] => []
    | n + 1, p :: rest =>
      if p.c == '\\' && !p.quoted then
        match rest with
        | q :: more => q.c :: go n more
        | [] => ['\\']
      else p.c :: go n rest

/-- The names a pattern matches in the workspace, seen from the working directory: each
component with pattern characters is matched against the names in its directory (a leading
`.` only by a pattern starting with `.`), the others are taken as they are and must exist. -/
def globMatches (ws : Workspace) (cwd : List String) (pat : List PatChar) : List ByteStr :=
  match pat with
  | p :: _ =>
    if p.c == '/' then [] else
    let comps := patternComponents pat
    -- candidates: the text so far and the components it names
    let step (cands : List (ByteStr × List String)) (comp : List PatChar) (last : Bool) :
        List (ByteStr × List String) :=
      let sep (t : ByteStr) : ByteStr := if t.isEmpty then [] else t ++ ['/']
      if comp.isEmpty then
        -- a trailing slash: directories only
        cands.filterMap fun (t, cs) =>
          if ws.isDirAt (cwd ++ cs) && (ws.fileAt? (cwd ++ cs)).isNone then some (t ++ ['/'], cs)
          else none
      else if !hasMeta comp then
        let lit := literalOf comp
        cands.filterMap fun (t, cs) =>
          match toString? lit with
          | some name =>
            let cs' := if name == "." then cs else if name == ".." then cs.dropLast else cs ++ [name]
            let present := (ws.fileAt? (cwd ++ cs')).isSome || ws.isDirAt (cwd ++ cs')
            if !last || present then some (sep t ++ lit, cs') else none
          | none => none
      else
        let dotOk := match comp with
          | q :: _ => q.c == '.'
          | [] => false
        cands.flatMap fun (t, cs) =>
          if !ws.isDirAt (cwd ++ cs) || (ws.fileAt? (cwd ++ cs)).isSome then [] else
          let names := ws.children (cwd ++ cs)
          let names := if dotOk then "." :: ".." :: names else names
          let hits := names.filter fun n =>
            let b := ofString n
            (dotOk || b.head? != some '.') && patMatch comp b
          hits.map fun n => (sep t ++ ofString n, cs ++ [n])
    let rec walk : List (List PatChar) → List (ByteStr × List String) → List (ByteStr × List String)
      | [], cands => cands
      | [c], cands => step cands c true
      | c :: rest, cands => walk rest (step cands c false)
    let found := walk comps [([], [])]
    (found.map (·.1)).mergeSort fun a b => bytesLE a b
  | [] => []

/-- The words of a field after matching names: the sorted matches, or the field's bytes when
nothing matches or it is no pattern. -/
def globField (field : List Bit) : Sh (List ByteStr) := do
  let p ← getProc
  let pat := Bit.pattern field
  if p.flag 'f' || !hasMeta pat then return [Bit.text field]
  let w ← getWorld
  match globMatches w.ws p.cwd pat with
  | [] => return [Bit.text field]
  | hits => return hits

def expandFuel : Nat := 100000

def expandFields (run : Runner) (words : List Word) : Sh (List ByteStr) := do
  let mut out : Array ByteStr := #[]
  for w in words do
    let (_, e) ← (expandParts run expandFuel w).run { full := true }
    let ifs := (← getProc).ifs
    for field in splitFields ifs e e.bits.reverse do
      for x in ← globField field do
        out := out.push x
  return out.toList

def expandText (run : Runner) (w : Word) : Sh ByteStr := do
  let (_, e) ← (expandParts run expandFuel w).run { full := false }
  return Bit.text e.bits.reverse

def expandPattern (run : Runner) (w : Word) : Sh (List PatChar) := do
  let (_, e) ← (expandParts run expandFuel w).run { full := false }
  return Bit.pattern e.bits.reverse

end PluginLens.Command
