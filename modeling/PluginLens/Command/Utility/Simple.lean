import PluginLens.Command.Utility.Basic
import PluginLens.Command.Format

/-!
# Small utilities

`echo` and `printf` as standalone programs, `true` and `false`, the path-name utilities
`basename` and `dirname`, `seq`, `sleep`, and the file makers and removers `mkdir`, `touch`
and `rm`.

The standalone `echo`, `true` and `false` take `--help` and `--version` only as their sole
argument; `printf` too, and it skips one leading `--`. `printf` warns when its format uses
none of the arguments given.
-/

namespace PluginLens.Command

open ByteStr

def soleInfo? (inv : Invocation) (usage : String) : Option Finished :=
  match inv.args with
  | [a] =>
    if a == "--help".toList then some (({} : Finished).out usage.toList)
    else if a == "--version".toList then some (({} : Finished).out (versionText inv.name))
    else none
  | _ => none

def runEcho (inv : Invocation) : Finished :=
  (soleInfo? inv "Usage: echo [SHORT-OPTION]... [STRING]...\n  or:  echo LONG-OPTION\n").getD
    (({} : Finished).out (standaloneEcho inv.args))

def runConstant (status : Nat) (inv : Invocation) : Finished :=
  match soleInfo? inv ("Usage: " ++ inv.name ++ " [ignored command line arguments]\n  or:  " ++
      inv.name ++ " OPTION\n") with
  | some f => f.exit status
  | none => ({} : Finished).exit status

def runPrintf (inv : Invocation) : Finished :=
  match soleInfo? inv "Usage: printf FORMAT [ARGUMENT]...\n  or:  printf OPTION\n" with
  | some f => f
  | none =>
    let args := match inv.args with
      | ['-', '-'] :: rest => rest
      | args => args
    match args with
    | [] => usageFailure "printf" "missing operand".toList
    | fmt :: rest =>
      let (p, unused) := runFormat .standalone fmt rest
      let f := p.diags.foldl (fun f d => f.err (utilityMessage "printf" d)) ({} : Finished)
      let f := if !p.stopped && !unused.isEmpty && unused.length == rest.length then
          f.err (utilityMessage "printf"
            ("warning: ignoring excess arguments, starting with ".toList ++ quoteArg (unused.headD [])))
        else f
      (f.out p.out).exit p.status

/-! ## basename and dirname -/

def baseName (p : ByteStr) : ByteStr :=
  let trimmed := (p.reverse.dropWhile (· == '/')).reverse
  if trimmed.isEmpty then (if p.isEmpty then [] else ['/'])
  else (trimmed.reverse.takeWhile (· != '/')).reverse

def dropSuffix (name suffix : ByteStr) : ByteStr :=
  if !suffix.isEmpty && suffix.length < name.length &&
      name.drop (name.length - suffix.length) == suffix then
    name.take (name.length - suffix.length)
  else name

def dirName (p : ByteStr) : ByteStr :=
  let trimmed := (p.reverse.dropWhile (· == '/')).reverse
  if trimmed.isEmpty then (if p.isEmpty then ['.'] else ['/'])
  else
    let dir := (trimmed.reverse.dropWhile (· != '/')).reverse
    let dir := (dir.reverse.dropWhile (· == '/')).reverse
    if dir.isEmpty then (if trimmed.head? == some '/' then ['/'] else ['.']) else dir

def basenameOptions : List OptDef :=
  [{ key := 'a', long := some "multiple" }, { key := 's', long := some "suffix", arg := .required },
   { key := 'z', long := some "zero" }, { key := 'h', short := false, long := some "help" },
   { key := 'V', short := false, long := some "version" }]

def runBasename (inv : Invocation) : Finished :=
  match readOptions basenameOptions true inv.args with
  | .error e => usageFailure "basename" e.message
  | .ok (opts, names) =>
    if hasOpt opts 'h' then ({} : Finished).out "Usage: basename NAME [SUFFIX]\n".toList
    else if hasOpt opts 'V' then ({} : Finished).out (versionText "basename")
    else
      let eol := if hasOpt opts 'z' then '\x00' else '\n'
      let multiple := hasOpt opts 'a' || hasOpt opts 's'
      match names with
      | [] => usageFailure "basename" "missing operand".toList
      | _ =>
        if multiple then
          let suffix := (optValue? opts 's').getD []
          names.foldl (fun f n => f.out (dropSuffix (baseName n) suffix ++ [eol])) {}
        else match names with
          | [n] => ({} : Finished).out (baseName n ++ [eol])
          | [n, s] => ({} : Finished).out (dropSuffix (baseName n) s ++ [eol])
          | _ :: _ :: extra :: _ =>
            usageFailure "basename" ("extra operand '".toList ++ extra ++ ['\''])
          | [] => {}

def runDirname (inv : Invocation) : Finished :=
  match readOptions [{ key := 'z', long := some "zero" },
      { key := 'h', short := false, long := some "help" },
      { key := 'V', short := false, long := some "version" }] true inv.args with
  | .error e => usageFailure "dirname" e.message
  | .ok (opts, names) =>
    if hasOpt opts 'h' then ({} : Finished).out "Usage: dirname [OPTION] NAME...\n".toList
    else if hasOpt opts 'V' then
      ({} : Finished).out (versionText "dirname")
    else if names.isEmpty then usageFailure "dirname" "missing operand".toList
    else
      let eol := if hasOpt opts 'z' then '\x00' else '\n'
      names.foldl (fun f n => f.out (dirName n ++ [eol])) {}

/-! ## seq -/

/-- A decimal number as `seq` reads it: its value scaled by `10 ^ frac` and the number of
digits after its point. -/
structure Fixed where
  scaled : Int
  frac : Nat

def readFixed? (s : ByteStr) : Option Fixed :=
  let (neg, body) := match s with
    | '-' :: r => (true, r)
    | '+' :: r => (false, r)
    | _ => (false, s)
  let whole := body.takeWhile isDigit
  let rest := body.drop whole.length
  let (fracDigits, rest) := match rest with
    | '.' :: r => (r.takeWhile isDigit, r.drop (r.takeWhile isDigit).length)
    | _ => ([], rest)
  if !rest.isEmpty || (whole.isEmpty && fracDigits.isEmpty) then none
  else
    let v : Nat := (whole ++ fracDigits).foldl (fun n c => 10 * n + (c.toNat - '0'.toNat)) 0
    some { scaled := if neg then -(v : Int) else v, frac := fracDigits.length }

def Fixed.rescale (x : Fixed) (frac : Nat) : Int := x.scaled * Int.pow 10 (frac - x.frac)

def fixedText (v : Int) (frac : Nat) : ByteStr :=
  let neg := v < 0
  let n := v.natAbs
  let digits := ofNat n
  let digits := List.replicate (frac + 1 - min (frac + 1) digits.length) '0' ++ digits
  let whole := digits.take (digits.length - frac)
  let part := digits.drop (digits.length - frac)
  (if neg then ['-'] else []) ++ whole ++ (if frac == 0 then [] else '.' :: part)

def seqOptions : List OptDef :=
  [{ key := 'f', long := some "format", arg := .required },
   { key := 's', long := some "separator", arg := .required },
   { key := 'w', long := some "equal-width" }, { key := 'h', short := false, long := some "help" },
   { key := 'V', short := false, long := some "version" }]

def runSeq (inv : Invocation) : Finished :=
  -- a negative number is an operand, not an option
  let looksNumeric (a : ByteStr) : Bool := match a with
    | '-' :: c :: _ => isDigit c || c == '.'
    | _ => false
  let args := inv.args.map fun a => if looksNumeric a then ['\x00'] ++ a else a
  match readOptions seqOptions false args with
  | .error e => usageFailure "seq" e.message
  | .ok (opts, operands) =>
    let operands := operands.map fun a => match a with
      | '\x00' :: r => r
      | _ => a
    if hasOpt opts 'h' then ({} : Finished).out "Usage: seq [OPTION]... LAST\n".toList
    else if hasOpt opts 'V' then ({} : Finished).out (versionText "seq")
    else
      let bad (a : ByteStr) : Finished :=
        usageFailure "seq" ("invalid floating point argument: '".toList ++ a ++ ['\''])
      match operands with
      | [] => usageFailure "seq" "missing operand".toList
      | _ :: _ :: _ :: extra :: _ => usageFailure "seq" ("extra operand '".toList ++ extra ++ ['\''])
      | _ =>
        let texts : List ByteStr := match operands with
          | [l] => [['1'], ['1'], l]
          | [f, l] => [f, ['1'], l]
          | xs => xs
        match texts.find? (fun a => (readFixed? a).isNone) with
        | some a => bad a
        | none =>
          let nums := texts.filterMap readFixed?
          match nums with
          | [first, step, last] =>
            if step.scaled == 0 then
              usageFailure "seq" ("invalid Zero increment value: '".toList ++ (texts[1]?.getD []) ++ ['\''])
            else
              let frac := max first.frac step.frac
              let scale := max frac last.frac
              let a := first.rescale scale
              let d := step.rescale scale
              let z := last.rescale scale
              let count : Nat :=
                if d > 0 then (if z < a then 0 else ((z - a) / d).toNat + 1)
                else (if z > a then 0 else ((a - z) / (-d)).toNat + 1)
              let values := (List.range count).map fun (k : Nat) => a + d * (k : Int)
              let shown := values.map fun v =>
                fixedText (v / Int.pow 10 (scale - frac)) frac
              let shown := if hasOpt opts 'w' then
                  let w := shown.foldl (fun m t => max m t.length) 0
                  shown.map fun t =>
                    match t with
                    | '-' :: r => '-' :: List.replicate (w - t.length) '0' ++ r
                    | _ => List.replicate (w - t.length) '0' ++ t
                else shown
              let shown := match optValue? opts 'f' with
                | some fmt => values.map fun v =>
                    (runFormat .standalone fmt [fixedText (v / Int.pow 10 (scale - frac)) frac]).1.out
                | none => shown
              let sep := (optValue? opts 's').getD ['\n']
              if shown.isEmpty then {}
              else ({} : Finished).out (ByteStr.intercalate sep shown ++ ['\n'])
          | _ => {}

/-! ## sleep -/

def runSleep (inv : Invocation) : Finished :=
  match inv.args with
  | [['-', '-', 'h', 'e', 'l', 'p']] => ({} : Finished).out "Usage: sleep NUMBER[SUFFIX]...\n".toList
  | [] => usageFailure "sleep" "missing operand".toList
  | args =>
    let valid (a : ByteStr) : Bool :=
      let body := match a.getLast? with
        | some c => if "smhd".toList.contains c then a.dropLast else a
        | none => a
      (readFixed? body).isSome && body.head? != some '-'
    match args.find? (!valid ·) with
    | some a => usageFailure "sleep" ("invalid time interval '".toList ++ a ++ ['\''])
    | none => {}

/-! ## mkdir, touch and rm -/

def runMkdir (inv : Invocation) : Finished :=
  match readOptions [{ key := 'm', long := some "mode", arg := .required },
      { key := 'p', long := some "parents" }, { key := 'v', long := some "verbose" },
      { key := 'h', short := false, long := some "help" },
      { key := 'V', short := false, long := some "version" }] true inv.args with
  | .error e => usageFailure "mkdir" e.message
  | .ok (opts, dirs) =>
    if dirs.isEmpty then usageFailure "mkdir" "missing operand".toList
    else
      let parents := hasOpt opts 'p'
      let (f, ws) := dirs.foldl (fun (f, ws) d =>
        let fail (why : String) : Finished × Workspace :=
          ((f.err (utilityMessage "mkdir" ("cannot create directory '".toList ++ d ++
            "': ".toList ++ why.toList))).exit 1, ws)
        match locate ws inv.cwd d with
        | .directory _ => if parents then (f, ws) else fail "File exists"
        | .regular _ _ | .device _ => fail "File exists"
        | .notDir => fail "Not a directory"
        | .missing =>
          match insideOf? inv.cwd d with
          | some cs => (f, ws.makeDirAt cs)
          | none => fail "Permission denied"
        | .noParent =>
          if parents then
            match insideOf? inv.cwd d with
            | some cs => (f, ws.makeDirAt cs)
            | none => fail "Permission denied"
          else fail "No such file or directory") (({} : Finished), inv.ws)
      { f with ws := some ws }

def runTouch (inv : Invocation) : Finished :=
  match readOptions [{ key := 'a' }, { key := 'c', long := some "no-create" }, { key := 'm' },
      { key := 'd', long := some "date", arg := .required },
      { key := 'r', long := some "reference", arg := .required },
      { key := 't', arg := .required }, { key := 'h', short := false, long := some "help" },
      { key := 'V', short := false, long := some "version" }] true inv.args with
  | .error e => usageFailure "touch" e.message
  | .ok (opts, files) =>
    if files.isEmpty then usageFailure "touch" "missing file operand".toList
    else
      let (f, ws) := files.foldl (fun (f, ws) p =>
        let fail (why : String) : Finished × Workspace :=
          ((f.err (utilityMessage "touch" ("cannot touch '".toList ++ p ++ "': ".toList ++
            why.toList))).exit 1, ws)
        match locate ws inv.cwd p with
        | .missing =>
          if hasOpt opts 'c' then (f, ws) else
          match insideOf? inv.cwd p with
          | some cs => (f, ws.setAt cs .empty)
          | none => fail "Permission denied"
        | .noParent => if hasOpt opts 'c' then (f, ws) else fail "No such file or directory"
        | .notDir => fail "Not a directory"
        | _ => (f, ws)) (({} : Finished), inv.ws)
      { f with ws := some ws }

def runRm (inv : Invocation) : Finished :=
  match readOptions [{ key := 'f', long := some "force" }, { key := 'i' }, { key := 'I' },
      { key := 'r', long := some "recursive" }, { key := 'R' }, { key := 'd', long := some "dir" },
      { key := 'v', long := some "verbose" }, { key := 'h', short := false, long := some "help" },
      { key := 'V', short := false, long := some "version" }] true inv.args with
  | .error e => usageFailure "rm" e.message
  | .ok (opts, files) =>
    let force := hasOpt opts 'f'
    let recursive := hasOpt opts 'r' || hasOpt opts 'R'
    if files.isEmpty then (if force then {} else usageFailure "rm" "missing operand".toList)
    else
      let (f, ws) := files.foldl (fun (f, ws) p =>
        let fail (why : String) : Finished × Workspace :=
          ((f.err (utilityMessage "rm" ("cannot remove '".toList ++ p ++ "': ".toList ++
            why.toList))).exit 1, ws)
        match locate ws inv.cwd p with
        | .regular cs _ => (f, ws.removeAt cs)
        | .directory (some cs) =>
          if recursive then
            (f, { ws with files := ws.files.filter (fun (g, _) => g.take cs.length != cs),
                          dirs := ws.dirs.filter (fun g => g.take cs.length != cs) })
          else fail "Is a directory"
        | .directory none => fail (if recursive then "Permission denied" else "Is a directory")
        | .device _ => fail "Permission denied"
        | .missing | .noParent => if force then (f, ws) else fail "No such file or directory"
        | .notDir => if force then (f, ws) else fail "Not a directory") (({} : Finished), inv.ws)
      { f with ws := some ws }

end PluginLens.Command
