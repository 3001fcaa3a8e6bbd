import PluginLens.Command.Utility.Basic

/-!
# Utilities that read files

`cat` copies its files (the standard input for none or `-`) and can number lines, squeeze
blank lines and make tabs, line ends and other control bytes visible. `head` and `tail`
copy the first or last lines (or bytes) of each file, with a header per file when there are
several. `wc` counts lines, words and bytes. `tee` copies its input to its output and to
files.

Each keeps going after a file it cannot read, reports it, and exits with status 1 at the
end.
-/

namespace PluginLens.Command

open ByteStr

/-! ## cat -/

def catOptions : List OptDef :=
  [{ key := 'b', long := some "number-nonblank" }, { key := 'n', long := some "number" },
   { key := 's', long := some "squeeze-blank" }, { key := 'v', long := some "show-nonprinting" },
   { key := 'E', long := some "show-ends" }, { key := 'T', long := some "show-tabs" },
   { key := 'A', long := some "show-all" }, { key := 'e' }, { key := 't' }, { key := 'u' },
   { key := 'h', short := false, long := some "help" },
   { key := 'V', short := false, long := some "version" }]

/-- How `cat` shows its input. -/
structure CatMode where
  number : Bool := false
  nonblank : Bool := false
  squeeze : Bool := false
  ends : Bool := false
  tabs : Bool := false
  nonprinting : Bool := false

def CatMode.plain (m : CatMode) : Bool :=
  !(m.number || m.squeeze || m.ends || m.tabs || m.nonprinting)

/-- `cat`'s state between bytes: the line number, and how many newlines in a row were just
read (`-1` inside a line). -/
structure CatState where
  lineNo : Nat := 0
  newlines : Int := 0

def catNumber (n : Nat) : ByteStr :=
  let d := ofNat n
  List.replicate (6 - d.length) ' ' ++ d ++ ['\t']

def visibleByte (tabs : Bool) (c : Char) : ByteStr :=
  let n := c.toNat
  if n ≥ 32 then
    if n < 127 then [c]
    else if n == 127 then ['^', '?']
    else if n ≥ 128 + 32 then
      if n < 128 + 127 then ['M', '-', Char.ofNat (n - 128)] else ['M', '-', '^', '?']
    else ['M', '-', '^', Char.ofNat (n - 128 + 64)]
  else if c == '\t' && !tabs then ['\t']
  else ['^', Char.ofNat (n + 64)]

/-- Shows bytes in a mode, continuing from a state; answers the output (reversed) and the
state after. -/
def catBytes (m : CatMode) (st : CatState) (b : ByteStr) : ByteStr × CatState :=
  b.foldl (fun (acc, st) c =>
    if c == '\n' then
      let nl := st.newlines + 1
      if nl ≥ 2 && m.squeeze then (acc, { st with newlines := 2 })
      else
        let nl := if nl ≥ 2 then 2 else nl
        let (acc, st) :=
          if nl > 0 && m.number && !m.nonblank then
            ((catNumber (st.lineNo + 1)).reverse ++ acc, { st with lineNo := st.lineNo + 1 })
          else (acc, st)
        let acc := if m.ends then '$' :: acc else acc
        ('\n' :: acc, { st with newlines := nl })
    else
      let (acc, st) :=
        if st.newlines ≥ 0 && m.number then
          ((catNumber (st.lineNo + 1)).reverse ++ acc, { st with lineNo := st.lineNo + 1 })
        else (acc, st)
      let shown :=
        if m.nonprinting then visibleByte m.tabs c
        else if c == '\t' && m.tabs then ['^', 'I']
        else [c]
      (shown.reverse ++ acc, { st with newlines := -1 })) ([], st)

def runCat (inv : Invocation) : Finished :=
  match readOptions catOptions true inv.args with
  | .error e => usageFailure "cat" e.message
  | .ok (opts, files) =>
    if hasOpt opts 'h' then ({} : Finished).out "Usage: cat [OPTION]... [FILE]...\n".toList
    else if hasOpt opts 'V' then
      ({} : Finished).out (versionText "cat")
    else
      let m : CatMode := opts.foldl (fun m (c, _) =>
        match c with
        | 'b' => { m with number := true, nonblank := true }
        | 'n' => { m with number := true }
        | 's' => { m with squeeze := true }
        | 'v' => { m with nonprinting := true }
        | 'E' => { m with ends := true }
        | 'T' => { m with tabs := true }
        | 'A' => { m with nonprinting := true, ends := true, tabs := true }
        | 'e' => { m with nonprinting := true, ends := true }
        | 't' => { m with nonprinting := true, tabs := true }
        | _ => m) {}
      let files := if files.isEmpty then [['-']] else files
      let usesInput := files.contains ['-']
      -- the standard input is read once
      let (f, _, _) := files.foldl (fun (f, st, inputLeft) path =>
        let inv' := if path == ['-'] && !inputLeft then { inv with stdin := [] } else inv
        let inputLeft := inputLeft && path != ['-']
        match readOperand inv' path with
        | .bytes b =>
          if m.plain then (f.out b, st, inputLeft)
          else
            let (o, st) := catBytes m st b
            (f.out o.reverse, st, inputLeft)
        | .failed why =>
          ((f.err (utilityMessage "cat" (path ++ ": ".toList ++ why.toList))).exit 1, st,
            inputLeft)) (({} : Finished), ({} : CatState), true)
      { f with readInput := usesInput }

/-! ## head and tail -/

def readCount? (s : ByteStr) : Option Nat :=
  let ds := s.takeWhile isDigit
  if ds.isEmpty then none
  else
    let v := ds.foldl (fun n c => 10 * n + (c.toNat - '0'.toNat)) 0
    let suffix := String.ofList (s.drop ds.length)
    let mult : Option Nat := match suffix with
      | "" => some 1
      | "b" => some 512
      | "kB" => some 1000
      | "K" | "KiB" => some 1024
      | "MB" => some 1000000
      | "M" | "MiB" => some 1048576
      | "GB" => some 1000000000
      | "G" | "GiB" => some 1073741824
      | _ => none
    mult.map (v * ·)

def headOptions : List OptDef :=
  [{ key := 'c', long := some "bytes", arg := .required },
   { key := 'n', long := some "lines", arg := .required },
   { key := 'q', long := some "quiet" }, { key := 'q', short := false, long := some "silent" },
   { key := 'v', long := some "verbose" }, { key := 'z', long := some "zero-terminated" },
   { key := 'h', short := false, long := some "help" },
   { key := 'V', short := false, long := some "version" }]

def tailOptions : List OptDef :=
  [{ key := 'c', long := some "bytes", arg := .required },
   { key := 'f', long := some "follow", arg := .optional }, { key := 'F' },
   { key := 'n', long := some "lines", arg := .required },
   { key := 'q', long := some "quiet" }, { key := 'q', short := false, long := some "silent" },
   { key := 's', long := some "sleep-interval", arg := .required },
   { key := 'v', long := some "verbose" }, { key := 'z', long := some "zero-terminated" },
   { key := 'h', short := false, long := some "help" },
   { key := 'V', short := false, long := some "version" }]

/-- What `head` or `tail` takes: lines or bytes, how many, and from which end (`fromEnd`
for `head -n -N`, `fromStart` for `tail -n +N`). -/
structure Span where
  bytes : Bool := false
  count : Nat := 10
  /-- `head`: all but the last `count`; `tail`: from the `count`-th on. -/
  flipped : Bool := false

def recordsOf (sep : Char) (b : ByteStr) : List ByteStr :=
  if sep == '\n' then linesOf b
  else (linesOf (b.map fun c => if c == sep then '\n' else if c == '\n' then sep else c)).map
    (·.map fun c => if c == '\n' then sep else if c == sep then '\n' else c)

def headPart (sp : Span) (sep : Char) (b : ByteStr) : ByteStr :=
  if sp.bytes then (if sp.flipped then b.take (b.length - sp.count) else b.take sp.count)
  else
    let ls := recordsOf sep b
    (if sp.flipped then ls.take (ls.length - sp.count) else ls.take sp.count).flatten

def tailPart (sp : Span) (sep : Char) (b : ByteStr) : ByteStr :=
  if sp.bytes then (if sp.flipped then b.drop (sp.count - 1) else b.drop (b.length - sp.count))
  else
    let ls := recordsOf sep b
    (if sp.flipped then ls.drop (sp.count - 1) else ls.drop (ls.length - sp.count)).flatten

/-- The arguments of `head` or `tail` with an old-style first argument (`-5`, `-5c`, `+3`)
read as the option it stands for. -/
def oldStyleCount (tail : Bool) (args : List ByteStr) : List ByteStr :=
  match args with
  | a :: rest =>
    match a with
    | c :: body =>
      let ds := body.takeWhile isDigit
      let suffix := body.drop ds.length
      let okSign := c == '-' || (tail && c == '+' && !ds.isEmpty)
      if okSign && (!ds.isEmpty || (tail && c == '+')) &&
          suffix.all (fun x => "bcklmqv".toList.contains x) && suffix.length ≤ 1 then
        let unit := if suffix == ['c'] then 'c' else 'n'
        let count := (if c == '+' then ['+'] else []) ++ (if ds.isEmpty then ['1', '0'] else ds)
        ['-', unit] :: count :: rest
      else args
    | [] => args
  | [] => args

def runHeadTail (tail : Bool) (inv : Invocation) : Finished :=
  let name := if tail then "tail" else "head"
  match readOptions (if tail then tailOptions else headOptions) true
      (oldStyleCount tail inv.args) with
  | .error e => usageFailure name e.message
  | .ok (opts, files) =>
    if hasOpt opts 'h' then ({} : Finished).out ("Usage: " ++ name ++ " [OPTION]... [FILE]...\n").toList
    else if hasOpt opts 'V' then
      ({} : Finished).out (versionText name)
    else
      -- the last count option decides
      let countOpt := (opts.reverse.find? fun (c, _) => c == 'n' || c == 'c')
      let parsed : Except ByteStr Span :=
        match countOpt with
        | none => .ok {}
        | some (c, v) =>
          let v := v.getD []
          let (flip, digits) := match v with
            | '-' :: r => (!tail, r)
            | '+' :: r => (tail, r)
            | _ => (false, v)
          match readCount? digits with
          | some n => .ok { bytes := c == 'c', count := n, flipped := flip }
          | none =>
            .error ((if c == 'c' then "invalid number of bytes: '" else
              "invalid number of lines: '").toList ++ v ++ ['\''])
      match parsed with
      | .error msg => ({} : Finished).err (utilityMessage name msg) |>.exit 1
      | .ok sp =>
        let sep := if hasOpt opts 'z' then '\x00' else '\n'
        let files := if files.isEmpty then [['-']] else files
        let headers := (files.length > 1 && !hasOpt opts 'q') || hasOpt opts 'v'
        let (f, _) := files.foldl (fun (f, first) path =>
          let shown := if path == ['-'] then "standard input".toList else path
          match readOperand inv path with
          | .bytes b =>
            let f := if headers then
                f.out ((if first then [] else ['\n']) ++ "==> ".toList ++ shown ++ " <==\n".toList)
              else f
            (f.out (if tail then tailPart sp sep b else headPart sp sep b), false)
          | .failed why =>
            let msg := if why == "Is a directory" then
                "error reading '".toList ++ path ++ "': ".toList ++ why.toList
              else "cannot open '".toList ++ shown ++ "' for reading: ".toList ++ why.toList
            ((f.err (utilityMessage name msg)).exit 1, first)) (({} : Finished), true)
        { f with readInput := files.contains ['-'] }

/-! ## wc -/

def wcOptions : List OptDef :=
  [{ key := 'c', long := some "bytes" }, { key := 'm', long := some "chars" },
   { key := 'l', long := some "lines" },
   { key := 'F', short := false, long := some "files0-from", arg := .required },
   { key := 'L', long := some "max-line-length" }, { key := 'w', long := some "words" },
   { key := 'T', short := false, long := some "total", arg := .required },
   { key := 'h', short := false, long := some "help" },
   { key := 'V', short := false, long := some "version" }]

/-- The counts of `wc`: lines, words, bytes and the longest line's width. -/
structure WcCounts where
  lines : Nat := 0
  words : Nat := 0
  bytes : Nat := 0
  longest : Nat := 0

def wcCount (b : ByteStr) : WcCounts :=
  let (c, _, _, cur) := b.foldl (fun (c, inWord, _, col) x =>
    let c := { c with bytes := c.bytes + 1 }
    if x == '\n' then
      ({ c with lines := c.lines + 1, longest := max c.longest col }, false, (), 0)
    else if isSpace x then
      let col := if x == '\t' then col + 8 - col % 8 else if x == '\r' || x == '\x0c' then 0 else col
      (c, false, (), col)
    else
      let printable := 0x20 ≤ x.toNat && x.toNat < 0x7f
      let c := if !inWord && printable then { c with words := c.words + 1 } else c
      (c, inWord || printable, (), if printable then col + 1 else col)) (({} : WcCounts), false, (), 0)
  { c with longest := max c.longest cur }

def runWc (inv : Invocation) : Finished :=
  match readOptions wcOptions true inv.args with
  | .error e => usageFailure "wc" e.message
  | .ok (opts, files) =>
    if hasOpt opts 'h' then ({} : Finished).out "Usage: wc [OPTION]... [FILE]...\n".toList
    else if hasOpt opts 'V' then
      ({} : Finished).out (versionText "wc")
    else
      let any := ["c", "m", "l", "L", "w"].any fun k => hasOpt opts (k.toList.headD ' ')
      let showL := hasOpt opts 'l' || !any
      let showW := hasOpt opts 'w' || !any
      let showM := hasOpt opts 'm'
      let showC := hasOpt opts 'c' || !any
      let showLL := hasOpt opts 'L'
      let kinds := [showL, showW, showM, showC, showLL].filter id |>.length
      let named := !files.isEmpty
      let files := if files.isEmpty then [['-']] else files
      let results := files.map fun path => (path, readOperand inv path)
      -- the width of the columns: the digits of the total size of regular files, at least
      -- 7 when a input is not a regular file, 1 for a single count of a single input
      let allRegular := files.all fun p => p != ['-'] &&
        match locate inv.ws inv.cwd p with
        | .regular _ _ => true
        | _ => false
      let total := results.foldl (fun n (_, r) => match r with
        | .bytes b => n + b.length
        | .failed _ => n) 0
      let firstFailed := match results.head? with
        | some (_, .failed _) => true
        | _ => false
      let width :=
        if (files.length == 1 && kinds == 1) || firstFailed then 1
        else max (ofNat total).length (if allRegular then 1 else 7)
      let pad (n : Nat) : ByteStr :=
        let d := ofNat n
        List.replicate (width - d.length) ' ' ++ d
      let row (c : WcCounts) (label : Option ByteStr) : ByteStr :=
        let cols := (if showL then [c.lines] else []) ++ (if showW then [c.words] else []) ++
          (if showM then [c.bytes] else []) ++ (if showC then [c.bytes] else []) ++
          (if showLL then [c.longest] else [])
        ByteStr.intercalate [' '] (cols.map pad) ++
          (match label with
            | some l => ' ' :: l
            | none => []) ++ ['\n']
      let (f, sum) := results.foldl (fun (f, sum) (path, r) =>
        match r with
        | .bytes b =>
          let c := wcCount b
          (f.out (row c (if named then some path else none)),
            { lines := sum.lines + c.lines, words := sum.words + c.words,
              bytes := sum.bytes + c.bytes, longest := max sum.longest c.longest : WcCounts })
        | .failed why =>
          ((f.err (utilityMessage "wc" (path ++ ": ".toList ++ why.toList))).exit 1, sum))
        (({} : Finished), ({} : WcCounts))
      let f := if files.length > 1 then f.out (row sum (some "total".toList)) else f
      { f with readInput := files.contains ['-'] }

/-! ## tee -/

def teeOptions : List OptDef :=
  [{ key := 'a', long := some "append" }, { key := 'i', long := some "ignore-interrupts" },
   { key := 'p' }, { key := 'O', short := false, long := some "output-error", arg := .optional },
   { key := 'h', short := false, long := some "help" },
   { key := 'V', short := false, long := some "version" }]

def runTee (inv : Invocation) : Finished :=
  match readOptions teeOptions true inv.args with
  | .error e => usageFailure "tee" e.message
  | .ok (opts, files) =>
    if hasOpt opts 'h' then ({} : Finished).out "Usage: tee [OPTION]... [FILE]...\n".toList
    else if hasOpt opts 'V' then
      ({} : Finished).out (versionText "tee")
    else
      let append := hasOpt opts 'a'
      let (f, ws) := files.foldl (fun (f, ws) path =>
        match locate ws inv.cwd path with
        | .regular cs old =>
          (f, ws.setAt cs (if append then old ++ inv.stdin.toBytes else inv.stdin.toBytes))
        | .missing =>
          match insideOf? inv.cwd path with
          | some cs => (f, ws.setAt cs inv.stdin.toBytes)
          | none => (f, ws)
        | .device _ => (f, ws)
        | .directory _ =>
          ((f.err (utilityMessage "tee" (path ++ ": Is a directory".toList))).exit 1, ws)
        | .noParent =>
          ((f.err (utilityMessage "tee" (path ++ ": No such file or directory".toList))).exit 1, ws)
        | .notDir =>
          ((f.err (utilityMessage "tee" (path ++ ": Not a directory".toList))).exit 1, ws))
        (({} : Finished), inv.ws)
      -- the copy to the standard output comes first
      { f with writes := f.writes ++ [(1, inv.stdin)], readInput := true, ws := some ws }

end PluginLens.Command
