import PluginLens.Command.Script.Expand
import PluginLens.Command.Format
import PluginLens.Command.Test
import PluginLens.Command.Utility.Catalog

/-!
# Built-in commands

The commands the shell runs itself, apart from those that run more commands (`eval`, `.`,
`exec`, `command`), which live with the interpreter. Each takes its arguments (without its
name) and sets the status; a mistake is a shell error, which ends the shell for the special
built-ins and only the command for the others.

Among them are the commands that change the shell itself: `set`, `shift`, `unset`,
`export`, `readonly`, `local`, `cd`, `trap`; those that leave the shell or a part of it:
`exit`, `return`, `break`, `continue`; and `read`, `kill`, `wait`, `type` and the shell's
own `echo`, `printf` and `test`.
-/

namespace PluginLens.Command

open ByteStr Sh

def specialBuiltinNames : List String :=
  [".", ":", "break", "continue", "eval", "exec", "exit", "export", "local", "readonly",
   "return", "set", "shift", "times", "trap", "unset"]

def regularBuiltinNames : List String :=
  ["alias", "bg", "cd", "chdir", "command", "echo", "false", "fg", "getopts", "hash", "jobs",
   "kill", "printf", "pwd", "read", "test", "[", "true", "type", "ulimit", "umask", "unalias",
   "wait"]

def signalName (n : Nat) : String :=
  match n with
  | 0 => "EXIT" | 1 => "HUP" | 2 => "INT" | 3 => "QUIT" | 4 => "ILL" | 5 => "TRAP"
  | 6 => "ABRT" | 7 => "BUS" | 8 => "FPE" | 9 => "KILL" | 10 => "USR1" | 11 => "SEGV"
  | 12 => "USR2" | 13 => "PIPE" | 14 => "ALRM" | 15 => "TERM" | 17 => "CHLD" | 18 => "CONT"
  | 19 => "STOP" | 20 => "TSTP" | 21 => "TTIN" | 22 => "TTOU" | 23 => "URG" | 24 => "XCPU"
  | 25 => "XFSZ" | 26 => "VTALRM" | 27 => "PROF" | 28 => "WINCH" | 29 => "IO" | 30 => "PWR"
  | 31 => "SYS" | 34 => "RTMIN" | 64 => "RTMAX"
  | _ =>
    if 34 < n && n < 50 then "RTMIN+" ++ toString (n - 34)
    else if 50 ≤ n && n < 64 then "RTMAX-" ++ toString (64 - n)
    else toString n

def signalCount : Nat := 65

def signalDescription (n : Nat) : String :=
  match n with
  | 1 => "Hangup" | 2 => "Interrupt" | 3 => "Quit" | 4 => "Illegal instruction"
  | 5 => "Trace/breakpoint trap" | 6 => "Aborted" | 7 => "Bus error"
  | 8 => "Floating point exception" | 9 => "Killed" | 10 => "User defined signal 1"
  | 11 => "Segmentation fault" | 12 => "User defined signal 2" | 13 => "Broken pipe"
  | 14 => "Alarm clock" | 15 => "Terminated" | 16 => "Stack fault" | 17 => "Child exited"
  | 18 => "Continued" | 19 => "Stopped (signal)" | 20 => "Stopped" | 21 => "Stopped (tty input)"
  | 22 => "Stopped (tty output)" | 23 => "Urgent I/O condition" | 24 => "CPU time limit exceeded"
  | 25 => "File size limit exceeded" | 26 => "Virtual timer expired"
  | 27 => "Profiling timer expired" | 28 => "Window changed" | 29 => "I/O possible"
  | 30 => "Power failure" | 31 => "Bad system call"
  | _ => "Real-time signal " ++ toString (n - 34)

def ignoredByDefault (n : Nat) : Bool := [17, 18, 19, 20, 21, 22, 23, 28].contains n

/-- A signal by number (below the count) or by name, ignoring case; names start at
`minSignal` (0 lets `EXIT` name 0). -/
def signalOf? (s : ByteStr) (minSignal : Nat) : Option Nat :=
  if !s.isEmpty && s.all isDigit then
    let n := s.foldl (fun n c => 10 * n + (c.toNat - '0'.toNat)) 0
    if n < signalCount then some n else none
  else
    let up := String.ofList (s.map Char.toUpper)
    (List.range signalCount).find? fun n => n ≥ minSignal && signalName n == up

def numberArg (s : ByteStr) : Sh Nat :=
  match decimalValue? s with
  | some v => if v < 0 || v > 2147483647 then fail ("Illegal number: ".toList ++ s) else return v.toNat
  | none => fail ("Illegal number: ".toList ++ s)

/-- Reads the options of a built-in as the shell does: letters after `-`, `--` ending them;
a letter followed by `:` in `spec` takes a value. -/
def builtinOptions (spec : String) (args : List ByteStr) :
    Sh (List (Char × Option ByteStr) × List ByteStr) :=
  go (args.length + 1) args []
where
  takes (c : Char) : Option Bool :=
    let s := spec.toList
    match s.findIdx? (· == c) with
    | some i => some (s[i + 1]? == some ':')
    | none => none
  go : Nat → List ByteStr → List (Char × Option ByteStr) →
      Sh (List (Char × Option ByteStr) × List ByteStr)
    | 0, rest, acc => return (acc.reverse, rest)
    | n + 1, a :: rest, acc =>
      match a with
      | ['-', '-'] => return (acc.reverse, rest)
      | '-' :: c :: more => do
        let (acc, rest) ← cluster (more.length + 1) (c :: more) rest acc
        go n rest acc
      | _ => return (acc.reverse, a :: rest)
    | _ + 1, [], acc => return (acc.reverse, [])
  cluster : Nat → ByteStr → List ByteStr → List (Char × Option ByteStr) →
      Sh (List (Char × Option ByteStr) × List ByteStr)
    | 0, _, rest, acc => return (acc, rest)
    | _ + 1, [], rest, acc => return (acc, rest)
    | n + 1, c :: more, rest, acc =>
      match takes c with
      | none => fail ("Illegal option -".toList ++ [c])
      | some false => cluster n more rest ((c, none) :: acc)
      | some true =>
        if !more.isEmpty then return ((c, some more) :: acc, rest)
        else match rest with
          | v :: rest' => return ((c, some v) :: acc, rest')
          | [] => fail ("No arg for -".toList ++ [c] ++ " option".toList)

/-- A value quoted as the shell lists variables, traps and aliases: each run of bytes other
than `'` in single quotes, each run of `'` in double quotes after it, and an empty value as
`''`. -/
def singleQuoted (s : ByteStr) : ByteStr :=
  go (s.length + 1) s
where
  go : Nat → ByteStr → ByteStr
    | 0, _ => []
    | n + 1, s =>
      let plain := s.takeWhile (· != '\'')
      let rest := s.drop plain.length
      let quotes := rest.takeWhile (· == '\'')
      let after := rest.drop quotes.length
      let here := ['\''] ++ plain ++ ['\''] ++
        (if quotes.isEmpty then [] else ['"'] ++ quotes ++ ['"'])
      if after.isEmpty then here else here ++ go n after

/-! ## Leaving -/

def exitBuiltin (args : List ByteStr) : Sh Unit := do
  let n ← match args with
    | a :: _ => numberArg a
    | [] => pure (← getProc).status
  throw (.exit (n % 256))

def returnBuiltin (args : List ByteStr) : Sh Unit := do
  let n ← match args with
    | a :: _ => numberArg a
    | [] => pure (← getProc).status
  modifyProc fun p => { p with status := n, skip := .returning }

def loopBuiltin (isBreak : Bool) (args : List ByteStr) : Sh Unit := do
  let n ← match args with
    | a :: _ => numberArg a
    | [] => pure 1
  if n == 0 then fail ("Illegal number: ".toList ++ (args.headD []))
  let p ← getProc
  let n := min n p.loops
  if n > 0 then
    setProc { p with skip := if isBreak then .breaking n else .continuing n }
  setStatus 0

/-! ## Parameters and variables -/

def shiftBuiltin (args : List ByteStr) : Sh Unit := do
  let n ← match args with
    | a :: _ => numberArg a
    | [] => pure 1
  let p ← getProc
  if n > p.params.length then fail "can't shift that many".toList
  setProc { p with params := p.params.drop n, status := 0, optIndex := 1, optOffset := none }

def optionNames : List (String × Option Char) :=
  [("errexit", some 'e'), ("noglob", some 'f'), ("ignoreeof", some 'I'),
   ("interactive", some 'i'), ("monitor", some 'm'), ("noexec", some 'n'), ("stdin", some 's'),
   ("xtrace", some 'x'), ("verbose", some 'v'), ("vi", some 'V'), ("emacs", some 'E'),
   ("noclobber", some 'C'), ("allexport", some 'a'), ("notify", some 'b'),
   ("nounset", some 'u'), ("privileged", some 'p'), ("nolog", none), ("debug", none)]

def optionLetters : List Char := "efIimnsxvVECabup".toList

def setFlag (c : Char) (on : Bool) : Sh Unit :=
  modifyProc fun p =>
    { p with flags := if on then (if p.flags.contains c then p.flags else c :: p.flags)
                      else p.flags.filter (· != c) }

def sortedVars (p : Proc) : List (ByteStr × Var) :=
  p.vars.mergeSort fun a b => bytesLE a.1 b.1

def setBuiltin (args : List ByteStr) : Sh Unit := do
  if args.isEmpty then
    for (n, v) in sortedVars (← getProc) do
      match v.value with
      | some x => out (n ++ ['='] ++ singleQuoted x ++ ['\n'])
      | none => pure ()
    setStatus 0
    return
  let rec go : Nat → List ByteStr → Sh (Option (List ByteStr))
    | 0, _ => return none
    | _ + 1, [] => return none
    | n + 1, a :: rest => do
      match a with
      | ['-'] =>
        setFlag 'x' false
        setFlag 'v' false
        return (if rest.isEmpty then none else some rest)
      | ['-', '-'] => return some rest
      | sign :: letters =>
        if sign != '-' && sign != '+' then return some (a :: rest)
        let on := sign == '-'
        let mut rest := rest
        for c in letters do
          if c == 'o' then
            match rest with
            | name :: more =>
              rest := more
              match optionNames.find? (·.1.toList == name) with
              | some (_, some l) => setFlag l on
              | some (_, none) => pure ()
              | none => fail ("Illegal option -o ".toList ++ name)
            | [] =>
              let p ← getProc
              if on then
                out "Current option settings\n".toList
                for (name, l) in optionNames do
                  let st := match l with
                    | some c => p.flag c
                    | none => false
                  out (name.toList ++ List.replicate (16 - name.length) ' ' ++
                    (if st then "on" else "off").toList ++ ['\n'])
              else
                for (name, l) in optionNames do
                  let st := match l with
                    | some c => p.flag c
                    | none => false
                  out ("set ".toList ++ (if st then "-o " else "+o ").toList ++ name.toList ++ ['\n'])
          else if optionLetters.contains c then setFlag c on
          else fail ("Illegal option ".toList ++ [sign, c])
        go n rest
      | [] => return some (a :: rest)
  match ← go (args.length + 1) args with
  | some params => modifyProc fun p => { p with params, optIndex := 1, optOffset := none }
  | none => pure ()
  setStatus 0

def unsetBuiltin (args : List ByteStr) : Sh Unit := do
  let (opts, names) ← builtinOptions "vf" args
  let flag := (opts.getLast?.map (·.1)).getD ' '
  for n in names do
    if flag == 'f' then modifyProc fun p => { p with funcs := p.funcs.filter (·.1 != n) }
    else
      let p ← getProc
      match p.var? n with
      | some v =>
        if v.readonly then fail (n ++ ": is read only".toList)
        setProc (p.withoutVar n)
      | none => pure ()
  setStatus 0

/-- `export` and `readonly`: mark variables, setting those given a value; with no names (or
`-p`) list the marked ones. -/
def exportBuiltin (readonly : Bool) (args : List ByteStr) : Sh Unit := do
  let (opts, names) ← builtinOptions "p" args
  let word := if readonly then "readonly" else "export"
  if !opts.isEmpty || names.isEmpty then
    for (n, v) in sortedVars (← getProc) do
      if (if readonly then v.readonly else v.exported) then
        out (word.toList ++ [' '] ++ n ++
          (match v.value with
            | some x => ['='] ++ singleQuoted x
            | none => []) ++ ['\n'])
    setStatus 0
    return
  for arg in names do
    let name := arg.takeWhile (· != '=')
    let value := if name.length < arg.length then some (arg.drop (name.length + 1)) else none
    if !isName name then fail (name ++ ": bad variable name".toList)
    let p ← getProc
    let mark (v : Var) : Var := if readonly then { v with readonly := true } else { v with exported := true }
    match value with
    | some x =>
      setVar name x
      let p ← getProc
      setProc (p.withVar name (mark ((p.var? name).getD { value := some x })))
    | none =>
      setProc (p.withVar name (mark ((p.var? name).getD { value := none })))
  setStatus 0

/-- `local name[=value]…`: only inside a function; the earlier state comes back when it
returns. -/
def localBuiltin (args : List ByteStr) : Sh Unit := do
  let p ← getProc
  match p.locals with
  | [] => fail "not in a function".toList
  | frame :: outer =>
    let mut frame := frame
    for arg in args do
      let name := arg.takeWhile (· != '=')
      if name == ['-'] then continue
      if !isName name then fail (name ++ ": bad variable name".toList)
      let p ← getProc
      frame := (name, p.var? name) :: frame
      if name.length < arg.length then setVar name (arg.drop (name.length + 1))
      else if (p.var? name).isNone then setProc (p.withVar name { value := none })
    modifyProc fun p => { p with locals := frame :: outer, status := 0 }

/-! ## Options of scripts -/

/-- Whether the letter `c` is an option of `spec`, and if so whether it takes a value: the
letters of `spec` are read as `getopts` reads them, a `:` after a letter marking a value. -/
def findOption (c : Char) : ByteStr → Option Bool
  | [] => none
  | d :: rest =>
    if d == c then some (rest.head? == some ':')
    else findOption c (rest.drop (if rest.head? == some ':' then 1 else 0))
termination_by s => s.length
decreasing_by simp only [List.length_drop, List.length_cons]; omega

/-- What one call of `getopts` finds: the letter for the variable (an option, `?` or `:`),
what becomes of `OPTARG` (`some (some v)` sets it, `some none` unsets it, `none` leaves it),
a complaint for the standard error, where the next call goes on (the number of the next
word, from 1, and the place in the word before it), and whether the options are over. -/
structure OptionStep where
  letter : Char
  optarg : Option (Option ByteStr) := none
  complaint : Option ByteStr := none
  index : Nat
  offset : Option Nat := none
  done : Bool := false

/-- One step of `getopts` over `words` with the option letters `spec` (a leading `:` asks for
quiet reports), going on from word `index` (from 1) and, inside the word before it, from
`offset`. A word is an option word when it starts with `-` and is neither `-` nor `--`; a
`--` ends the options and is passed over. -/
def optionStep (spec : ByteStr) (words : List ByteStr) (index : Nat) (offset : Option Nat) :
    OptionStep :=
  let quiet := spec.head? == some ':'
  -- the word under way, if a letter of it is left
  let current : Option (ByteStr × Nat) :=
    match offset, words[index - 2]? with
    | some o, some w => if 2 ≤ index && o < w.length then some (w, o) else none
    | _, _ => none
  let start : Option (ByteStr × Nat × Nat) :=
    match current with
    | some (w, o) => some (w, o, index)
    | none =>
      match words[index - 1]? with
      | some w =>
        if w.head? != some '-' || w.length == 1 || w == ['-', '-'] then none
        else some (w, 1, index + 1)
      | none => none
  match start with
  | none =>
    let next := match current, words[index - 1]? with
      | none, some ['-', '-'] => index + 1
      | _, _ => index
    { letter := '?', index := next, done := true }
  | some (w, o, next) =>
    let c := w.getD o ' '
    let after := o + 1
    match findOption c spec with
    | none =>
      { letter := '?', index := next, offset := some after,
        optarg := some (if quiet then some [c] else none),
        complaint := if quiet then none else some ("Illegal option -".toList ++ [c]) }
    | some false => { letter := c, index := next, offset := some after }
    | some true =>
      if after < w.length then
        { letter := c, optarg := some (some (w.drop after)), index := next }
      else match words[next - 1]? with
        | some v => { letter := c, optarg := some (some v), index := next + 1 }
        | none =>
          if quiet then { letter := ':', optarg := some (some [c]), index := next }
          else
            { letter := '?', optarg := some none, index := next,
              complaint := some ("No arg for -".toList ++ [c] ++ " option".toList) }

/-- `getopts spec name [word…]`: the next option of the words, or of the positional
parameters when none are given. The letter goes to `name`, a value to `OPTARG`, and the
number of the next word to `OPTIND`; the status is 1 once the options are over. -/
def getoptsBuiltin (args : List ByteStr) : Sh Unit := do
  match args with
  | spec :: name :: given =>
    let p ← getProc
    let words := if given.isEmpty then p.params else given
    let (index, offset) :=
      if p.optIndex > words.length + 1 then (1, none) else (p.optIndex, p.optOffset)
    let step := optionStep spec words index offset
    match step.complaint with
    | some m => let _ ← writeFd 2 (m ++ ['\n'])
    | none => pure ()
    match step.optarg with
    | some (some v) => setVar "OPTARG".toList v
    | some none =>
      let p ← getProc
      match p.var? "OPTARG".toList with
      | some v =>
        if v.readonly then fail "OPTARG: is read only".toList
        setProc (p.withoutVar "OPTARG".toList)
      | none => pure ()
    | none => pure ()
    setVarPlain "OPTIND".toList (ofNat step.index)
    modifyProc fun p => { p with optIndex := step.index, optOffset := step.offset }
    if !isName name then fail (name ++ ": bad variable name".toList)
    setVar name [step.letter]
    setStatus (if step.done then 1 else 0)
  | _ => fail "Usage: getopts optstring var [arg]".toList

/-! ## Aliases -/

/-- The bucket of an alias name in the shell's table, which fixes the order aliases are
listed in: sixteen times the first byte plus the sum of all bytes, modulo 39. -/
def aliasBucket (name : ByteStr) : Nat :=
  ((name.headD ' ').toNat * 16 + name.foldl (fun n c => n + c.toNat) 0) % 39

/-- The aliases in the order they are listed: by bucket, and in a bucket in the order they
were first defined. -/
def listedAliases (as : List (ByteStr × ByteStr)) : List (ByteStr × ByteStr) :=
  (List.range 39).flatMap fun b => as.filter fun a => aliasBucket a.1 == b

def aliasLine (a : ByteStr × ByteStr) : ByteStr :=
  a.1 ++ ['='] ++ singleQuoted a.2 ++ ['\n']

def defineAlias (as : List (ByteStr × ByteStr)) (name value : ByteStr) : List (ByteStr × ByteStr) :=
  if as.any (·.1 == name) then as.map fun d => if d.1 == name then (name, value) else d
  else as ++ [(name, value)]

/-- `alias [name[=value]…]`: defines the aliases given a value (the name ends at the first
`=` after its first byte) and shows the others; with no names, shows them all. -/
def aliasBuiltin (args : List ByteStr) : Sh Unit := do
  if args.isEmpty then
    for a in listedAliases (← getProc).aliases do
      out (aliasLine a)
    setStatus 0
    return
  let mut status := 0
  for a in args do
    match (a.drop 1).findIdx? (· == '=') with
    | some i =>
      let name := a.take (i + 1)
      let value := a.drop (i + 2)
      modifyProc fun p => { p with aliases := defineAlias p.aliases name value }
    | none =>
      match (← getProc).aliases.find? (·.1 == a) with
      | some d => out (aliasLine d)
      | none =>
        let _ ← writeFd 2 ("alias: ".toList ++ a ++ " not found\n".toList)
        status := 1
  setStatus status

def unaliasBuiltin (args : List ByteStr) : Sh Unit := do
  let (opts, names) ← builtinOptions "a" args
  if !opts.isEmpty then
    modifyProc fun p => { p with aliases := [] }
    setStatus 0
    return
  let mut status := 0
  for n in names do
    if (← getProc).aliases.any (·.1 == n) then
      modifyProc fun p => { p with aliases := p.aliases.filter (·.1 != n) }
    else
      let _ ← writeFd 2 ("unalias: ".toList ++ n ++ " not found\n".toList)
      status := 1
  setStatus status

/-! ## The creation mask -/

def octalMask (m : Nat) : ByteStr :=
  ['0', Char.ofNat (48 + m / 64 % 8), Char.ofNat (48 + m / 8 % 8), Char.ofNat (48 + m % 8)]

def maskSymbols (m : Nat) : ByteStr :=
  let perms := 511 ^^^ (m % 512)
  let part (who : Char) (shift : Nat) : ByteStr :=
    let bits := perms / Nat.pow 2 shift % 8
    [who, '='] ++ (if bits / 4 % 2 == 1 then ['r'] else []) ++
      (if bits / 2 % 2 == 1 then ['w'] else []) ++ (if bits % 2 == 1 then ['x'] else [])
  part 'u' 6 ++ [','] ++ part 'g' 3 ++ [','] ++ part 'o' 0

/-- The value of the symbolic permission letters `s` against the permissions `perms`: `rwx`
by themselves, `ugo` as the permissions of that class, `X` as `x` when anyone may execute;
answers the three bits and the rest of the text. -/
def permissionBits (perms : Nat) : Nat → ByteStr → Nat → Nat × ByteStr
  | 0, s, v => (v, s)
  | n + 1, c :: s, v =>
    match c with
    | 'r' => permissionBits perms n s (v ||| 4)
    | 'w' => permissionBits perms n s (v ||| 2)
    | 'x' => permissionBits perms n s (v ||| 1)
    | 'X' => permissionBits perms n s (if perms &&& 0o111 != 0 then v ||| 1 else v)
    | 'u' => permissionBits perms n s (v ||| perms / 64 % 8)
    | 'g' => permissionBits perms n s (v ||| perms / 8 % 8)
    | 'o' => permissionBits perms n s (v ||| perms % 8)
    | 's' | 't' => permissionBits perms n s v
    | _ => (v, c :: s)
  | _ + 1, [], v => (v, [])

/-- Applies the clauses of a symbolic mode (`u+w,go-x`, …) to the permissions `perms`;
answers the new permissions and the text that could not be read. -/
def applySymbolic (perms : Nat) : Nat → ByteStr → Nat × ByteStr
  | 0, s => (perms, s)
  | n + 1, s =>
    if s.isEmpty then (perms, s) else
    let who := s.takeWhile fun c => "augo".toList.contains c
    let s := s.drop who.length
    let classes := who.foldl (fun acc c => acc ||| match c with
      | 'a' => 0o111 | 'u' => 0o100 | 'g' => 0o010 | _ => 0o001) 0
    let classes := if classes == 0 then 0o111 else classes
    match s with
    | op :: s =>
      if !"=+-".toList.contains op then (perms, op :: s) else
      let (v, s) := permissionBits perms (s.length + 1) s 0
      let v := (v % 8) * classes
      let perms := match op with
        | '-' => perms &&& (511 ^^^ v)
        | '=' => v ||| (perms &&& (511 ^^^ (classes * 7)))
        | _ => perms ||| v
      match s with
      | ',' :: s => applySymbolic perms n s
      | c :: s => if "=+-".toList.contains c then applySymbolic perms n (c :: s) else (perms, c :: s)
      | [] => (perms, [])
    | [] => (perms, [])

/-- `umask [-S] [mask]`: shows the file creation mask, in octal or (with `-S`) as the
permissions it leaves, or sets it from octal digits or a symbolic mode. -/
def umaskBuiltin (args : List ByteStr) : Sh Unit := do
  let (opts, rest) ← builtinOptions "S" args
  let p ← getProc
  match rest with
  | [] => out ((if opts.isEmpty then octalMask p.umask else maskSymbols p.umask) ++ ['\n'])
  | m :: _ =>
    if m.head?.any isDigit then
      if !m.all (fun c => '0' ≤ c && c ≤ '7') then fail ("Illegal number: ".toList ++ m)
      let v := m.foldl (fun acc c => 8 * acc + (c.toNat - '0'.toNat)) 0
      setProc { p with umask := v % 512 }
    else
      let (perms, left) := applySymbolic (511 ^^^ (p.umask % 512)) (m.length + 1) m
      if !left.isEmpty then fail ("Illegal mode: ".toList ++ m)
      setProc { p with umask := 511 ^^^ (perms % 512) }
  setStatus 0

/-! ## read -/

/-- Reads one line from the standard input as `read` does: a backslash escapes the next
byte (and joins lines) unless `raw`; answers the bytes with whether each was escaped, and
whether the input ended before a newline. -/
def readLineBits (raw : Bool) (k : Nat) : Nat → List (Char × Bool) → Bool → Sh (List (Char × Bool) × Bool)
  | 0, acc, _ => return (acc.reverse, false)
  | n + 1, acc, escaping => do
    match ← takeByte k with
    | none => return (acc.reverse, true)
    | some '\x00' => readLineBits raw k n acc escaping
    | some c =>
      if escaping then
        if c == '\n' then readLineBits raw k n acc false
        else readLineBits raw k n ((c, true) :: acc) false
      else if !raw && c == '\\' then readLineBits raw k n acc true
      else if c == '\n' then return (acc.reverse, false)
      else readLineBits raw k n ((c, false) :: acc) false

/-- Splits a line read by `read` among `n` variables: each but the last takes one field; the
last takes the rest, which keeps its inner separators unless it is a single field. -/
def readFields (ifs : ByteStr) (n : Nat) (line : List (Char × Bool)) : List ByteStr :=
  let isSep (x : Char × Bool) : Bool := !x.2 && ifs.contains x.1
  let isWhite (x : Char × Bool) : Bool := isSep x && defaultIfs.contains x.1
  -- one field and the text after its delimiter
  let field (s : List (Char × Bool)) : List (Char × Bool) × List (Char × Bool) :=
    let f := s.takeWhile (!isSep ·)
    let rest := s.drop f.length
    let rest := match rest with
      | d :: more =>
        if isWhite d then
          let more := more.dropWhile isWhite
          match more with
          | e :: more' => if isSep e && !isWhite e then more'.dropWhile isWhite else more
          | [] => more
        else more.dropWhile isWhite
      | [] => []
    (f, rest)
  let rec go : Nat → Nat → List (Char × Bool) → List ByteStr → List ByteStr
    | 0, _, _, acc => acc.reverse
    | _ + 1, 0, _, acc => acc.reverse
    | fuel + 1, k + 1, s, acc =>
      let s := s.dropWhile isWhite
      if k == 0 then
        -- the last variable: a single field loses its delimiter, more keep theirs
        let (f, rest) := field s
        if rest.isEmpty then (f.map (·.1) :: acc).reverse
        else
          let trimmed := (s.reverse.dropWhile isWhite).reverse
          (trimmed.map (·.1) :: acc).reverse
      else
        let (f, rest) := field s
        go fuel k rest (f.map (·.1) :: acc)
  let got := go (n + 1) n line []
  got ++ List.replicate (n - got.length) []

def readBuiltin (args : List ByteStr) : Sh Unit := do
  let (opts, names) ← builtinOptions "p:r" args
  if names.isEmpty then fail "arg count".toList
  let raw := opts.any (·.1 == 'r')
  match ← inputOf? 0 with
  | none =>
    for n in names do setVar n []
    setStatus 2
  | some k =>
    let w ← getWorld
    let (line, ended) ← readLineBits raw k ((w.streams.getD k []).length + 1) [] false
    let p ← getProc
    let values := readFields p.ifs names.length line
    for (n, v) in names.zip values do setVar n v
    setStatus (if ended then 1 else 0)

/-! ## Signals and jobs -/

def trapBuiltin (args : List ByteStr) : Sh Unit := do
  let args := match args with
    | ['-', '-'] :: rest => rest
    | _ => args
  match args with
  | [] =>
    let p ← getProc
    let sorted := p.traps.mergeSort fun a b => decide (a.1 ≤ b.1)
    for (n, action) in sorted do
      out ("trap -- ".toList ++ singleQuoted action ++ [' '] ++ (signalName n).toList ++ ['\n'])
    setStatus 0
  | first :: rest =>
    -- a number first resets every signal named
    let (action, sigs) : Option ByteStr × List ByteStr :=
      if first == ['-'] then (none, rest)
      else if !first.isEmpty && first.all isDigit then (none, args)
      else (some first, rest)
    let mut status := 0
    for s in sigs do
      match signalOf? s 0 with
      | some n =>
        modifyProc fun p =>
          let others := p.traps.filter (·.1 != n)
          { p with traps := match action with
            | some a => others ++ [(n, a)]
            | none => others }
      | none =>
        let _ ← writeFd 2 ("trap: ".toList ++ s ++ ": bad trap\n".toList)
        status := 1
    setStatus status

def killUsage : ByteStr :=
  ("Usage: kill [-s sigspec | -signum | -sigspec] [pid | job]... or\n" ++
    "kill -l [exitstatus]").toList

/-- Sends a signal to a process: the running one acts on it after the command; a finished
job takes any signal; other processes do not exist. -/
def sendSignal (sig : Nat) (pid : Nat) : Sh Bool := do
  let p ← getProc
  let w ← getWorld
  if pid == p.self || pid == p.shellPid || pid == 0 then
    if sig != 0 then
      let target := if pid == 0 then p.self else pid
      if sig == 9 && target == p.self then throw (.killed 9 target)
      modifyWorld fun w => { w with pending := w.pending ++ [(target, sig)] }
    return true
  else if w.jobs.any (·.1 == pid) then return true
  else return false

def killBuiltin (args : List ByteStr) : Sh Unit := do
  if args.isEmpty then fail killUsage
  -- the signal: `-N`, `-NAME`, `-s NAME`, or `-l` to list
  let (signal, list, rest) ← match args with
    | ('-' :: spec) :: rest =>
      match signalOf? spec 1 with
      | some n => pure (some n, false, rest)
      | none => do
        let (opts, rest) ← builtinOptions "ls:" args
        let mut signal : Option Nat := none
        let mut list := false
        for (c, v) in opts do
          if c == 'l' then list := true
          else
            let v := v.getD []
            match signalOf? v 1 with
            | some n => signal := some n
            | none => fail ("invalid signal number or name: ".toList ++ v)
        pure (signal, list, rest)
    | _ => pure (none, false, args)
  if list then
    match rest with
    | [] =>
      out "0\n".toList
      for n in (List.range (signalCount - 1)).map (· + 1) do out ((signalName n).toList ++ ['\n'])
      setStatus 0
    | a :: _ =>
      let n ← numberArg a
      let n := if n > 128 then n - 128 else n
      if 0 < n && n < signalCount then
        out ((signalName n).toList ++ ['\n'])
        setStatus 0
      else fail ("invalid signal number or exit status: ".toList ++ a)
  else
    if rest.isEmpty then fail killUsage
    let sig := signal.getD 15
    let mut status := 0
    for a in rest do
      let pid ← match a with
        | '-' :: digits => numberArg digits
        | _ => numberArg a
      if !(← sendSignal sig pid) then
        warn "No such process\n".toList
        status := 1
    setStatus status

/-- `wait [pid…]`: jobs have finished when they start, so this answers the status of the
last one named. -/
def waitBuiltin (args : List ByteStr) : Sh Unit := do
  let w ← getWorld
  let mut status := 0
  for a in args do
    let pid ← numberArg a
    status := match w.jobs.find? (·.1 == pid) with
      | some (_, s) => s
      | none => 127
  setStatus status

/-! ## Other built-ins -/

def echoBuiltin (args : List ByteStr) : Sh Unit := do
  out (builtinEcho args)
  setStatus 0

def printfBuiltin (args : List ByteStr) : Sh Unit := do
  let r := builtinPrintf args
  for d in r.diags do warn d
  out r.out
  setStatus r.status

def fileTest (ws : Workspace) (cwd : List String) (op : Char) (path : ByteStr) : Bool :=
  let node := locate ws cwd path
  match op, node with
  | 'e', .regular _ _ | 'e', .directory _ | 'e', .device _ => true
  | 'f', .regular _ _ => true
  | 'd', .directory _ => true
  | 'c', .device n => n != "/dev/stdin" && n != "/dev/stdout" && n != "/dev/stderr"
  | 's', .regular _ b => b.size > 0
  | 's', .directory _ => true
  | 'r', .regular _ _ | 'r', .directory _ | 'r', .device _ => true
  | 'w', .regular _ _ | 'w', .directory _ | 'w', .device _ => true
  | 'x', .directory _ => true
  | _, _ => false

def testBuiltin (bracket : Bool) (args : List ByteStr) : Sh Unit := do
  let args ← if bracket then
      match args.getLast? with
      | some [']'] => pure args.dropLast
      | _ => fail "missing ]".toList
    else pure args
  let p ← getProc
  let w ← getWorld
  match evalTest (fileTest w.ws p.cwd) args with
  | .ok b => setStatus (if b then 0 else 1)
  | .error e => fail e.text

def cdBuiltin (args : List ByteStr) : Sh Unit := do
  let args := match args with
    | ['-', '-'] :: rest => rest
    | _ => args
  let p ← getProc
  let target := match args with
    | d :: _ => d
    | [] => (p.value? "HOME".toList).getD []
  match locate (← getWorld).ws p.cwd target with
  | .directory (some cs) =>
    setProc { p with cwd := cs, status := 0 }
  | _ => fail ("can't cd to ".toList ++ target)

/-- How `type` and `command -v` describe a name. -/
inductive Found where
  | keyword
  | special
  | function
  | builtin
  | program (path : ByteStr)
  | missing
  deriving Inhabited

def pathReachesPrograms (p : Proc) : Bool :=
  match p.value? "PATH".toList with
  | none => true
  | some path =>
    let dirs := splitOnByte ':' path
    dirs.any fun d => ["/bin", "/usr/bin", "/usr/local/bin", "/sbin", "/usr/sbin",
      "/usr/local/sbin"].contains (String.ofList d)
where
  splitOnByte (sep : Char) (s : ByteStr) : List ByteStr :=
    (s.foldr (fun c (acc : List ByteStr) =>
      if c == sep then [] :: acc
      else match acc with
        | w :: rest => (c :: w) :: rest
        | [] => [[c]]) [[]])

def describeName (p : Proc) (name : ByteStr) : Found :=
  let s := String.ofList name
  if ["!", "case", "do", "done", "elif", "else", "esac", "fi", "for", "if", "in", "then",
      "until", "while", "\x7b", "\x7d"].contains s then .keyword
  else if specialBuiltinNames.contains s then .special
  else if (p.func? name).isSome then .function
  else if regularBuiltinNames.contains s then .builtin
  else if (isProgramName s || s == "sh" || s == "env") && pathReachesPrograms p then
    .program ("/usr/bin/".toList ++ name)
  else .missing

def typeBuiltin (args : List ByteStr) : Sh Unit := do
  let p ← getProc
  let mut status := 0
  for n in args do
    match describeName p n with
    | .keyword => out (n ++ " is a shell keyword\n".toList)
    | .special => out (n ++ " is a special shell builtin\n".toList)
    | .function => out (n ++ " is a shell function\n".toList)
    | .builtin => out (n ++ " is a shell builtin\n".toList)
    | .program path => out (n ++ " is ".toList ++ path ++ ['\n'])
    | .missing =>
      out (n ++ ": not found\n".toList)
      status := 127
  setStatus status

def commandDescribe (verbose : Bool) (args : List ByteStr) : Sh Unit := do
  let p ← getProc
  match args with
  | [] => setStatus 0
  | n :: _ =>
    if verbose then typeBuiltin [n]
    else
      match describeName p n with
      | .program path =>
        out (path ++ ['\n'])
        setStatus 0
      | .missing => setStatus 127
      | _ =>
        out (n ++ ['\n'])
        setStatus 0

end PluginLens.Command
