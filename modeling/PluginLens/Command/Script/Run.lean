import PluginLens.Command.Script.Builtins
import PluginLens.Command.Script.Parse

/-!
# Running scripts

The interpreter: a command tree is run for its effect on the shell. Lists run in order and
stop while a loop or function is being left; `&&` and `||` look at the status of their left
side; `if`, `while`, `until`, `for` and `case` do what their names say. A simple command
expands its words, opens its redirections, makes its assignments and then runs a special
built-in, a function, a built-in or an installed program, or reports that the name is not
found (status 127). Subshells, command substitutions, pipeline stages and background jobs
run on a copy of the process, so that nothing they change but files and output survives
them; a pipeline stage's output is collected and becomes the next stage's input.

With `set -e`, a simple command, pipeline or subshell that fails while its status is not
being tested ends the shell. Signals sent to the shell are acted on after each command: a
trap runs its action, an ignored signal is dropped, and any other ends the process. When the
shell ends, the action of its `EXIT` trap runs first.

Every entry point takes fuel and hands one less to what it runs, so running always ends; the
shell also counts the commands it runs against a budget and stops when it is spent.
-/

namespace PluginLens.Command

open ByteStr Sh

/-- How a command name is run. -/
inductive Target where
  | special (name : String)
  | function (body : Cmd)
  | builtin (name : String)
  | program (name : String)
  | denied
  | missing
  deriving Inhabited

def programDirs : List String :=
  ["/bin", "/usr/bin", "/usr/local/bin", "/sbin", "/usr/sbin", "/usr/local/sbin"]

def isProgram (s : String) : Bool := isProgramName s || s == "sh" || s == "dash" || s == "env"

/-- How a name with a slash is run: a program in a system directory, or a file that cannot
be run, or nothing. -/
def pathTarget (ws : Workspace) (cwd : List String) (name : ByteStr) : Target :=
  let dir := String.ofList (dirName name)
  let base := String.ofList (baseName name)
  if programDirs.contains dir && isProgram base then .program base
  else match locate ws cwd name with
    | .regular _ _ | .directory _ | .device _ => .denied
    | _ => .missing

/-- How a name is run: special built-ins first, then functions (unless skipped), other
built-ins, and programs on the search path. -/
def findTarget (p : Proc) (ws : Workspace) (name : ByteStr) (functions : Bool) : Target :=
  if name.contains '/' then pathTarget ws p.cwd name
  else
    let s := String.ofList name
    if specialBuiltinNames.contains s then .special s
    else match (if functions then p.func? name else none) with
      | some body => .function body
      | none =>
        if regularBuiltinNames.contains s then .builtin s
        else if isProgram s && pathReachesPrograms p then .program s
        else .missing

def programTarget (p : Proc) (ws : Workspace) (name : ByteStr) : Target :=
  if name.contains '/' then pathTarget ws p.cwd name
  else if isProgram (String.ofList name) && pathReachesPrograms p then .program (String.ofList name)
  else .missing

/-- The words after `command` and its options, when they name a command to run; `none` when
`command` itself is to run (no command, or `-v` and the like). -/
def commandWords (args : List ByteStr) : Option (List ByteStr) :=
  go (args.length + 1) args
where
  go : Nat → List ByteStr → Option (List ByteStr)
    | 0, _ => none
    | _ + 1, [] => none
    | n + 1, a :: rest =>
      match a with
      | ['-', '-'] => if rest.isEmpty then none else some rest
      | '-' :: opts@(_ :: _) => if opts.all (· == 'p') then go n rest else none
      | _ => some (a :: rest)

/-- The command a simple command's words name: its target, its words (with `command` and its
options taken off), and whether `command` was used. -/
def resolveCommand (p : Proc) (ws : Workspace) (argv : List ByteStr) :
    Option Target × List ByteStr × Bool :=
  match argv with
  | [] => (none, [], false)
  | name :: rest =>
    match findTarget p ws name true with
    | .builtin "command" =>
      match commandWords rest with
      | some words@(w :: _) => (some (findTarget p ws w false), words, true)
      | _ => (some (.builtin "command"), argv, false)
    | t => (some t, argv, false)

/-- What a loop does after its condition or body: go on, start the next round, or stop. -/
inductive LoopStep where
  | go
  | next
  | stop

def loopStep : Sh LoopStep := do
  let p ← getProc
  match p.skip with
  | .none => return .go
  | .breaking n =>
    setProc { p with skip := if n ≤ 1 then .none else .breaking (n - 1) }
    return .stop
  | .continuing n =>
    if n ≤ 1 then
      setProc { p with skip := .none }
      return .next
    else
      setProc { p with skip := .continuing (n - 1) }
      return .stop
  | .returning => return .stop

def checkErrexit (tested : Bool) : Sh Unit := do
  let p ← getProc
  if p.flag 'e' && !tested && p.status != 0 then throw (.exit p.status)

def dropTrailingNewlines (b : ByteStr) : ByteStr :=
  (b.reverse.dropWhile (· == '\n')).reverse

/-- The standard descriptors of a run: input from an empty stream, output and errors to the
run's standard output and error. -/
def standardFds : List (Nat × Port) :=
  [(0, { input := some 0 }), (1, { output := some .stdout }), (2, { output := some .stderr })]

def startVars : List (ByteStr × Var) :=
  [("IFS".toList, { value := some defaultIfs }), ("PS1".toList, { value := some "$ ".toList }),
   ("PS2".toList, { value := some "> ".toList }), ("PS4".toList, { value := some "+ ".toList }),
   ("OPTIND".toList, { value := some ['1'] })]

def startEnvironment : List (ByteStr × Var) :=
  let path := "/usr/local/sbin:/usr/local/bin:/usr/sbin:/usr/bin:/sbin:/bin".toList
  [("PATH".toList, { value := some path, exported := true })]

/-- The process after a redirection failed or a command ended: descriptors back as they
were. -/
def restoreFds (fds : List (Nat × Port)) : Sh Unit := modifyProc fun p => { p with fds }

def redirFailure (msg : ByteStr) : Sh Bool := do
  warn msg
  setStatus 2
  return false

def openRead (fd : Nat) (name : ByteStr) : Sh Bool := do
  let p ← getProc
  match locate (← getWorld).ws p.cwd name with
  | .regular _ b =>
    let k ← openStream (ofBytes b)
    modifyProc (·.withPort fd (some { input := some k }))
    return true
  | .directory _ =>
    let k ← openStream []
    modifyProc (·.withPort fd (some { input := some k }))
    return true
  | .device d =>
    let source := if d == "/dev/stdin" then some 0 else if d == "/dev/stdout" then some 1
      else if d == "/dev/stderr" then some 2 else none
    match source with
    | some s =>
      modifyProc fun p => p.withPort fd (p.port? s)
      return true
    | none =>
      if d == "/dev/tty" then
        redirFailure ("cannot open ".toList ++ name ++ ": No such device or address".toList)
      else
        let k ← openStream []
        modifyProc (·.withPort fd (some { input := some k }))
        return true
  | _ => redirFailure ("cannot open ".toList ++ name ++ ": No such file".toList)

def openWrite (fd : Nat) (name : ByteStr) (append : Bool) (keepInput : Bool) : Sh Bool := do
  let p ← getProc
  let w ← getWorld
  let attach (s : Sink) (input : Option Nat) : Sh Bool := do
    modifyProc (·.withPort fd (some { output := some s, input }))
    return true
  match locate w.ws p.cwd name with
  | .regular cs b =>
    if !append && p.flag 'C' then
      redirFailure ("cannot create ".toList ++ name ++ ": File exists".toList)
    else
      let input ← if keepInput then some <$> openStream (ofBytes b) else pure none
      if !append then modifyWorld fun w => { w with ws := w.ws.setAt cs .empty }
      attach (.file cs) input
  | .missing =>
    match insideOf? p.cwd name with
    | some cs =>
      modifyWorld fun w => { w with ws := w.ws.setAt cs .empty }
      let input ← if keepInput then some <$> openStream [] else pure none
      attach (.file cs) input
    | none => redirFailure ("cannot create ".toList ++ name ++ ": Permission denied".toList)
  | .directory _ => redirFailure ("cannot create ".toList ++ name ++ ": Is a directory".toList)
  | .device d =>
    if d == "/dev/stdout" || d == "/dev/stderr" || d == "/dev/stdin" then
      let s := if d == "/dev/stdout" then 1 else if d == "/dev/stderr" then 2 else 0
      match (p.port? s).bind (·.output) with
      | some sink => attach sink none
      | none => redirFailure ("cannot create ".toList ++ name ++ ": Bad file descriptor".toList)
    else if d == "/dev/tty" then
      redirFailure ("cannot create ".toList ++ name ++ ": No such device or address".toList)
    else attach .null none
  | .noParent | .notDir =>
    redirFailure ("cannot create ".toList ++ name ++ ": Directory nonexistent".toList)

def duplicateFd (fd : Nat) (target : ByteStr) : Sh Bool := do
  if target == ['-'] then
    modifyProc (·.withPort fd none)
    return true
  else if !target.isEmpty && target.all isDigit then
    let src := target.foldl (fun n c => 10 * n + (c.toNat - '0'.toNat)) 0
    let p ← getProc
    match p.port? src with
    | some port =>
      setProc (p.withPort fd (some port))
      return true
    | none => redirFailure (target ++ ": Bad file descriptor".toList)
  else fail "Syntax error: Bad fd number".toList

def registerHereDocs (st : ParseState) : Sh Unit :=
  modifyWorld fun w =>
    let fresh := st.bodies.filter fun (id, _) => !(w.hereDocs.any (·.1 == id))
    { w with hereDocs := fresh ++ w.hereDocs, nextHere := max w.nextHere st.nextHere }

/-- The shell's options and script from its command line: option letters (with `-o name`),
then for `-c` the command, its `$0` and parameters, or else a script file and its
parameters, or nothing to read the standard input. -/
structure ShellArgs where
  flags : List (Char × Bool) := []
  command : Bool := false
  rest : List ByteStr := []

def readShellArgs (args : List ByteStr) : Except ByteStr ShellArgs :=
  go (args.length + 1) args {}
where
  go : Nat → List ByteStr → ShellArgs → Except ByteStr ShellArgs
    | 0, rest, st => .ok { st with rest }
    | _ + 1, [], st => .ok { st with rest := [] }
    | n + 1, a :: rest, st =>
      match a with
      | ['-'] | ['-', '-'] => .ok { st with rest }
      | sign :: letters =>
        if sign != '-' && sign != '+' then .ok { st with rest := a :: rest }
        else
          let on := sign == '-'
          let step : Except ByteStr (ShellArgs × List ByteStr) :=
            letters.foldl (fun acc c =>
              match acc with
              | .error e => .error e
              | .ok (st, rest) =>
                if c == 'c' then .ok ({ st with command := true }, rest)
                else if c == 'l' then .ok (st, rest)
                else if c == 'o' then
                  match rest with
                  | name :: more =>
                    match optionNames.find? (·.1.toList == name) with
                    | some (_, some l) => .ok ({ st with flags := st.flags ++ [(l, on)] }, more)
                    | some (_, none) => .ok (st, more)
                    | none => .error ("Illegal option -o ".toList ++ name)
                  | [] => .ok (st, rest)
                else if optionLetters.contains c then
                  .ok ({ st with flags := st.flags ++ [(c, on)] }, rest)
                else .error ("Illegal option ".toList ++ [sign, c])) (.ok (st, rest))
          match step with
          | .ok (st, rest) => go n rest st
          | .error e => .error e
      | [] => .ok { st with rest := a :: rest }

mutual

/-- Runs a command; `tested` when its status is being tested (`if`, `while`, `&&`, `!`), so
that `set -e` lets it fail. -/
def runCmd : Nat → Bool → Cmd → Sh Unit
  | 0, _, _ => throw .exhausted
  | fuel + 1, tested, c => do
    tick
    match c with
    | .simple assigns words redirs line =>
      runSimple fuel tested assigns words redirs line
      checkErrexit tested
    | .pipeline cmds =>
      runPipeline fuel tested cmds none
      checkErrexit tested
    | .negate inner =>
      runCmd fuel true inner
      modifyProc fun p => { p with status := if p.status == 0 then 1 else 0 }
    | .andThen a b =>
      runCmd fuel true a
      let p ← getProc
      if p.skip == .none && p.status == 0 then runCmd fuel tested b
    | .orElse a b =>
      runCmd fuel true a
      let p ← getProc
      if p.skip == .none && p.status != 0 then runCmd fuel tested b
    | .seq a b =>
      runCmd fuel tested a
      if (← getProc).skip == .none then runCmd fuel tested b
    | .background a =>
      let pid ← newPid
      let st ← subshell fuel pid do
        let k ← openStream []
        modifyProc (·.withPort 0 (some { input := some k }))
        runCmd fuel false a
      modifyWorld fun w => { w with jobs := (pid, st) :: w.jobs }
      modifyProc fun p => { p with lastBackground := some pid, status := 0 }
    | .subshell body redirs line =>
      modifyProc fun p => { p with line }
      let pid ← newPid
      let st ← subshell fuel pid do
        if ← applyRedirs fuel redirs then runOpt fuel tested body
        else throw (.exit 2)
      setStatus st
      checkErrexit tested
    | .redirected body redirs =>
      let saved := (← getProc).fds
      if ← applyRedirs fuel redirs then
        let r ← tryCatch (runCmd fuel tested body *> pure none) (fun h => pure (some h))
        restoreFds saved
        match r with
        | some h => throw h
        | none => pure ()
      else restoreFds saved
    | .ifThen cond body other =>
      runOpt fuel true cond
      let p ← getProc
      if p.skip == .none then
        if p.status == 0 then runOpt fuel tested body
        else match other with
          | some o => runCmd fuel tested o
          | none => setStatus 0
    | .loop untilLoop cond body =>
      modifyProc fun p => { p with loops := p.loops + 1 }
      let st ← runLoop fuel tested untilLoop cond body 0
      modifyProc fun p => { p with loops := p.loops - 1, status := st }
    | .forEach var words body line =>
      modifyProc fun p => { p with line }
      let items ← match words with
        | some ws => expandFields (substitute fuel) ws
        | none => pure (← getProc).params
      modifyProc fun p => { p with loops := p.loops + 1 }
      let st ← runFor fuel tested var items body 0
      modifyProc fun p => { p with loops := p.loops - 1, status := st }
    | .caseOf subject arms line =>
      modifyProc fun p => { p with line }
      let s ← expandText (substitute fuel) subject
      runCase fuel tested s arms
    | .defun name body _ =>
      modifyProc fun p => { p with funcs := (name, body) :: p.funcs.filter (·.1 != name), status := 0 }
    | .empty => pure ()
    dotrap fuel

def runOpt : Nat → Bool → Option Cmd → Sh Unit
  | 0, _, _ => throw .exhausted
  | fuel + 1, tested, some c => runCmd fuel tested c
  | _ + 1, _, none => pure ()

def runLoop : Nat → Bool → Bool → Option Cmd → Option Cmd → Nat → Sh Nat
  | 0, _, _, _, _, _ => throw .exhausted
  | fuel + 1, tested, untilLoop, cond, body, last => do
    tick
    runOpt fuel true cond
    match ← loopStep with
    | .stop => return last
    | .next => runLoop fuel tested untilLoop cond body last
    | .go =>
      let st := (← getProc).status
      if (if untilLoop then st == 0 else st != 0) then return last
      runOpt fuel tested body
      let bodyStatus := (← getProc).status
      match ← loopStep with
      | .stop => return bodyStatus
      | _ => runLoop fuel tested untilLoop cond body bodyStatus

def runFor : Nat → Bool → ByteStr → List ByteStr → Option Cmd → Nat → Sh Nat
  | 0, _, _, _, _, _ => throw .exhausted
  | _ + 1, _, _, [], _, last => return last
  | fuel + 1, tested, var, x :: rest, body, _ => do
    tick
    setVar var x
    runOpt fuel tested body
    let st := (← getProc).status
    match ← loopStep with
    | .stop => return st
    | _ => runFor fuel tested var rest body st

def runCase : Nat → Bool → ByteStr → List (List Word × Option Cmd) → Sh Unit
  | 0, _, _, _ => throw .exhausted
  | _ + 1, _, _, [] => setStatus 0
  | fuel + 1, tested, s, (pats, body) :: rest => do
    let mut matched := false
    for pat in pats do
      if !matched then
        let pc ← expandPattern (substitute fuel) pat
        if patMatch pc s then matched := true
    if matched then
      match body with
      | some b => runCmd fuel tested b
      | none => setStatus 0
    else runCase fuel tested s rest

/-- A simple command: words expanded, redirections opened, assignments made, then the
command run. -/
def runSimple : Nat → Bool → List (ByteStr × Word) → List Word → List Redir → Nat → Sh Unit
  | 0, _, _, _, _, _ => throw .exhausted
  | fuel + 1, tested, assigns, words, redirs, line => do
    modifyProc fun p => { p with line, substStatus := 0 }
    let run := substitute fuel
    let argv ← expandFields run words
    let p ← getProc
    let (target, argv, viaCommand) := resolveCommand p (← getWorld).ws argv
    let special := match target with
      | some (.special _) => !viaCommand
      | _ => false
    let savedFds := p.fds
    if !(← applyRedirs fuel redirs) then
      restoreFds savedFds
      if special then throw .error
    else
      -- assignments last only for special built-ins and commands without a name
      let permanent := argv.isEmpty || special
      let before := (← getProc).vars
      for (name, w) in assigns do
        let v ← expandText run w
        setVar name v
        if !permanent then
          modifyProc fun p => match p.var? name with
            | some var => p.withVar name { var with exported := true }
            | none => p
      let q ← getProc
      if q.flag 'x' then
        let ps4 := (q.value? "PS4".toList).getD []
        let shown := assigns.map (fun (n, _) => n ++ ['='] ++ ((q.value? n).getD [])) ++ argv
        let _ ← writeFd 2 (ps4 ++ ByteStr.intercalate [' '] shown ++ ['\n'])
      let r ← tryCatch (dispatch fuel tested target argv viaCommand *> pure none)
        (fun h => pure (some h))
      if !permanent then
        modifyProc fun p =>
          assigns.foldl (fun p (name, _) =>
            match before.find? (·.1 == name) with
            | some (_, v) => p.withVar name v
            | none => p.withoutVar name) p
      let keepFds := match target, argv with
        | some (.special "exec"), [_] => true
        | _, _ => false
      if !keepFds then restoreFds savedFds
      match r with
      | some h => throw h
      | none => pure ()

def dispatch : Nat → Bool → Option Target → List ByteStr → Bool → Sh Unit
  | 0, _, _, _, _ => throw .exhausted
  | fuel + 1, tested, target, argv, viaCommand => do
    match target, argv with
    | some t, name :: args =>
      match t with
      | .special s => runBuiltin fuel (!viaCommand) s name args
      | .builtin s => runBuiltin fuel false s name args
      | .function body => runFunction fuel tested body args
      | .program s =>
        let st ← runProgram fuel s name args
        setStatus st
      | .denied =>
        warn (name ++ ": Permission denied".toList)
        setStatus 126
      | .missing =>
        warn (name ++ ": not found".toList)
        setStatus 127
    | _, _ => setStatus (← getProc).substStatus

/-- Runs a built-in under its name; a shell error ends only the command unless the
built-in is special. -/
def runBuiltin : Nat → Bool → String → ByteStr → List ByteStr → Sh Unit
  | 0, _, _, _, _ => throw .exhausted
  | fuel + 1, special, s, name, args => do
    let saved := (← getProc).builtinName
    modifyProc fun p => { p with builtinName := some name }
    let r ← tryCatch (builtinBody fuel s args *> pure none) (fun h => pure (some h))
    modifyProc fun p => { p with builtinName := saved }
    match r with
    | none => pure ()
    | some .error => if special then throw .error else setStatus 2
    | some h => throw h

def builtinBody : Nat → String → List ByteStr → Sh Unit
  | 0, _, _ => throw .exhausted
  | fuel + 1, s, args => do
    match s with
    | ":" | "true" => setStatus 0
    | "false" => setStatus 1
    | "echo" => echoBuiltin args
    | "printf" => printfBuiltin args
    | "test" => testBuiltin false args
    | "[" => testBuiltin true args
    | "exit" => exitBuiltin args
    | "return" => returnBuiltin args
    | "break" => loopBuiltin true args
    | "continue" => loopBuiltin false args
    | "shift" => shiftBuiltin args
    | "set" => setBuiltin args
    | "unset" => unsetBuiltin args
    | "export" => exportBuiltin false args
    | "readonly" => exportBuiltin true args
    | "local" => localBuiltin args
    | "read" => readBuiltin args
    | "trap" => trapBuiltin args
    | "kill" => killBuiltin args
    | "wait" => waitBuiltin args
    | "type" => typeBuiltin args
    | "cd" | "chdir" => cdBuiltin args
    | "eval" =>
      let st ← runText fuel (ByteStr.intercalate [' '] args)
      setStatus st
    | "." =>
      match args with
      | [] => setStatus 0
      | file :: rest =>
        let p ← getProc
        let ws := (← getWorld).ws
        match (if file.contains '/' then some (locate ws p.cwd file) else none) with
        | some (.regular _ b) =>
          let savedParams := p.params
          if !rest.isEmpty then modifyProc fun p => { p with params := rest }
          let st ← runText fuel (ofBytes b)
          modifyProc fun p => { p with
            params := if rest.isEmpty then p.params else savedParams,
            skip := if p.skip == .returning then .none else p.skip }
          setStatus st
        | some _ => fail ("cannot open ".toList ++ file ++ ": No such file".toList)
        | none => fail (file ++ ": not found".toList)
    | "exec" =>
      match args with
      | [] => setStatus 0
      | name :: rest =>
        let p ← getProc
        match programTarget p (← getWorld).ws name with
        | .program prog =>
          let st ← runProgramAs fuel p.self prog name rest
          throw (.exit st)
        | .denied =>
          warn (name ++ ": Permission denied".toList)
          throw (.exit 126)
        | _ =>
          warn (name ++ ": not found".toList)
          throw (.exit 127)
    | "command" =>
      match args with
      | ('-' :: opts) :: rest =>
        if opts.contains 'V' then commandDescribe true rest
        else if opts.contains 'v' then commandDescribe false rest
        else setStatus 0
      | _ => setStatus 0
    | "pwd" =>
      let p ← getProc
      out ((p.value? "PWD".toList).getD ['/'] ++ ['\n'])
      setStatus 0
    | "umask" => umaskBuiltin args
    | "getopts" => getoptsBuiltin args
    | "alias" => aliasBuiltin args
    | "unalias" => unaliasBuiltin args
    | "times" =>
      out "0m0.000000s 0m0.000000s\n0m0.000000s 0m0.000000s\n".toList
      setStatus 0
    | "ulimit" =>
      if args.isEmpty then out "unlimited\n".toList
      setStatus 0
    | _ => setStatus 0

/-- Runs a function with its parameters; its local variables and the caller's parameters
come back when it returns. -/
def runFunction : Nat → Bool → Cmd → List ByteStr → Sh Unit
  | 0, _, _, _ => throw .exhausted
  | fuel + 1, tested, body, args => do
    let p ← getProc
    setProc { p with params := args, loops := 0, funcDepth := p.funcDepth + 1,
                     locals := [] :: p.locals, optIndex := 1, optOffset := none }
    let r ← tryCatch (runCmd fuel tested body *> pure none) (fun h => pure (some h))
    let q ← getProc
    let frame := q.locals.headD []
    let q := frame.foldl (fun q (name, old) =>
      match old with
      | some v => q.withVar name v
      | none => q.withoutVar name) q
    setProc { q with params := p.params, loops := p.loops, funcDepth := p.funcDepth,
                     locals := p.locals, optIndex := p.optIndex, optOffset := p.optOffset, skip := if q.skip == .returning then .none else q.skip }
    match r with
    | some h => throw h
    | none => pure ()

/-- Runs an installed program as a child process; answers its status. A child ended by a
signal is reported the way the shell reports a job. -/
def runProgram : Nat → String → ByteStr → List ByteStr → Sh Nat
  | 0, _, _, _ => throw .exhausted
  | fuel + 1, prog, name, args => do
    let pid ← newPid
    let r ← tryCatch (Sum.inl <$> runProgramAs fuel pid prog name args) fun h =>
      match h with
      | .killed sig t => if t == pid then pure (Sum.inr sig) else throw h
      | _ => throw h
    match r with
    | .inl st => return st
    | .inr sig =>
      if sig != 2 && sig != 13 then
        let _ ← writeFd 2 ((signalDescription sig).toList ++ ['\n'])
      return 128 + sig

def runProgramAs : Nat → Nat → String → ByteStr → List ByteStr → Sh Nat
  | 0, _, _, _, _ => throw .exhausted
  | fuel + 1, pid, prog, name, args => do
    match prog with
    | "sh" | "dash" => shellMain fuel pid name args
    | "env" => runEnv fuel pid args
    | _ =>
      let p ← getProc
      let w ← getWorld
      let k? ← inputOf? 0
      let stdin := match k? with
        | some k => w.streams.getD k []
        | none => []
      let env := p.vars.filterMap fun (n, v) =>
        if v.exported then v.value.map (n, ·) else none
      match runUtility { name := prog, args, stdin, ws := w.ws, cwd := p.cwd, env } with
      | some f =>
        if f.readInput then
          match k? with
          | some k => let _ ← drainStream k
          | none => pure ()
        match f.ws with
        | some ws => modifyWorld fun w => { w with ws }
        | none => pure ()
        for (fd, b) in f.writes.reverse do
          let _ ← writeFd fd b
        return f.status
      | none =>
        warn (name ++ ": not found".toList)
        return 127

def runEnv : Nat → Nat → List ByteStr → Sh Nat
  | 0, _, _ => throw .exhausted
  | fuel + 1, pid, args => do
    let defs : List OptDef :=
      [{ key := 'i', long := some "ignore-environment" }, { key := '0', long := some "null" },
       { key := 'u', long := some "unset", arg := .required },
       { key := 'C', long := some "chdir", arg := .required },
       { key := 'S', long := some "split-string", arg := .required },
       { key := 'v', long := some "debug" }, { key := 'h', short := false, long := some "help" },
       { key := 'V', short := false, long := some "version" }]
    -- a lone `-` first is `-i`
    let args := match args with
      | ['-'] :: rest => ['-', 'i'] :: rest
      | _ => args
    match readOptions defs false args with
    | .error e =>
      let _ ← writeFd 2 (utilityMessage "env" e.message ++ tryHelp "env")
      return 125
    | .ok (opts, rest) =>
      if hasOpt opts 'h' then
        out "Usage: env [OPTION]... [-] [NAME=VALUE]... [COMMAND [ARG]...]\n".toList
        return 0
      if hasOpt opts 'V' then
        out (versionText "env")
        return 0
      let p ← getProc
      let base := if hasOpt opts 'i' then [] else
        p.vars.filterMap fun (n, v) => if v.exported then v.value.map (n, ·) else none
      let unsets := opts.filterMap fun (c, v) => if c == 'u' then v else none
      let base := base.filter fun (n, _) => !unsets.contains n
      let assigns := rest.takeWhile (·.contains '=')
      let words := rest.drop assigns.length
      let envVars := assigns.foldl (fun acc a =>
        let n := a.takeWhile (· != '=')
        (acc.filter (·.1 != n)) ++ [(n, a.drop (n.length + 1))]) base
      match words with
      | [] =>
        let eol := if hasOpt opts '0' then '\x00' else '\n'
        for (n, v) in envVars do out (n ++ ['='] ++ v ++ [eol])
        return 0
      | name :: cmdArgs =>
        match programTarget p (← getWorld).ws name with
        | .program prog =>
          -- the program sees exactly the new environment
          let saved ← getProc
          let hidden := (saved.vars.map fun (n, v) => (n, { v with exported := false })).filter
            fun (n, _) => !envVars.any (·.1 == n)
          setProc { saved with vars := hidden ++ envVars.map fun (n, v) => (n, { value := some v, exported := true }) }
          let r ← tryCatch (runProgramAs fuel pid prog name cmdArgs) fun h => do
            setProc saved
            throw h
          setProc saved
          return r
        | .denied =>
          let _ ← writeFd 2 (utilityMessage "env" ("'".toList ++ name ++ "': Permission denied".toList))
          return 126
        | _ =>
          let _ ← writeFd 2 (utilityMessage "env" ("'".toList ++ name ++
            "': No such file or directory".toList))
          return 127

/-- The shell as a program: reads its command line, runs its script as process `pid` with
the exported variables, and answers its exit status. -/
def shellMain : Nat → Nat → ByteStr → List ByteStr → Sh Nat
  | 0, _, _, _ => throw .exhausted
  | fuel + 1, pid, name, args => do
    let parent ← getProc
    let exported := parent.vars.filter (·.2.exported)
    let startProc (arg0 : ByteStr) (params : List ByteStr) (flags : List Char) : Proc :=
      { vars := startVars.filter (fun (n, _) => !exported.any (·.1 == n)) ++ exported,
        arg0, params, fds := parent.fds, flags, shellPid := pid, self := pid, cwd := parent.cwd,
        umask := parent.umask }
    let early (msg : ByteStr) : Sh Nat := do
      let _ ← writeFd 2 (name ++ ": 0: ".toList ++ msg ++ ['\n'])
      return 2
    match readShellArgs args with
    | .error msg => early msg
    | .ok sa =>
      let flags := sa.flags.foldl (fun fs (c, on) =>
        if on then (if fs.contains c then fs else c :: fs) else fs.filter (· != c)) []
      -- the script: the command of `-c`, a file, or the standard input
      let script : Except ByteStr (ByteStr × ByteStr × List ByteStr) ←
        if sa.command then
          match sa.rest with
          | [] => pure (.error "-c requires an argument".toList)
          | cmd :: more =>
            match more with
            | arg0 :: params => pure (.ok (cmd, arg0, params))
            | [] => pure (.ok (cmd, name, []))
        else match sa.rest with
          | file :: params => do
            match locate (← getWorld).ws parent.cwd file with
            | .regular _ b => pure (.ok (ofBytes b, file, params))
            | _ => pure (.error ("cannot open ".toList ++ file ++ ": No such file".toList))
          | [] => do
            let text ← readAll 0
            pure (.ok (text, name, []))
      match script with
      | .error msg => early msg
      | .ok (text, arg0, params) =>
        setProc (startProc arg0 params flags)
        let r ← tryCatch (some <$> runMain fuel text) fun h => do
          setProc parent
          throw h
        setProc parent
        return r.getD 0

/-- Runs a script as a whole shell: its commands, then the exit trap; answers the exit
status. -/
def runMain : Nat → ByteStr → Sh Nat
  | 0, _ => throw .exhausted
  | fuel + 1, text => do
    let r ← tryCatch (runText fuel text *> pure none) (fun h => pure (some h))
    let status ← match r with
      | none => pure (← getProc).status
      | some (.exit s) => pure s
      | some .error => pure 2
      | some h => throw h
    exitTrap fuel status

/-- Reads a text as commands and runs them one line at a time; a syntax error is a shell
error on its line. Answers the status of the last command run (0 for none). -/
def runText : Nat → ByteStr → Sh Nat
  | 0, _ => throw .exhausted
  | fuel + 1, text => do
    let st := parseStart text 1 (← getWorld).nextHere
    runTextFrom fuel st 0

def runTextFrom : Nat → ParseState → Nat → Sh Nat
  | 0, _, _ => throw .exhausted
  | fuel + 1, st, last => do
    match parseNext st with
    | .error e =>
      modifyProc fun p => { p with line := e.line }
      fail (ofString e.message)
    | .ok (none, _) => return last
    | .ok (some none, st') =>
      registerHereDocs st'
      runTextFrom fuel st' last
    | .ok (some (some cmd), st') =>
      registerHereDocs st'
      runCmd fuel false cmd
      let p ← getProc
      if p.skip != .none then return p.status
      runTextFrom fuel st' p.status

/-- Runs a body as a subshell with process number `pid`: on a copy of the process, with the
traps that are not ignored cleared; answers its exit status. -/
def subshell : Nat → Nat → Sh Unit → Sh Nat
  | 0, _, _ => throw .exhausted
  | fuel + 1, pid, body => do
    let saved ← getProc
    setProc { saved with self := pid, traps := saved.traps.filter (·.2.isEmpty), skip := .none }
    let r ← tryCatch (body *> pure none) (fun h => pure (some h))
    let status ← match r with
      | none => pure (some (← getProc).status)
      | some (.exit s) => pure (some s)
      | some .error => pure (some 2)
      | some _ => pure none
    match status, r with
    | some s, _ =>
      let s ← tryCatch (exitTrap fuel s) fun h => do
        setProc saved
        throw h
      setProc saved
      return s
    | none, some h =>
      setProc saved
      throw h
    | none, none =>
      setProc saved
      return 0

def exitTrap : Nat → Nat → Sh Nat
  | 0, _ => throw .exhausted
  | fuel + 1, status => do
    let p ← getProc
    match p.traps.find? (·.1 == 0) with
    | some (_, action) =>
      if action.isEmpty then return status
      setProc { p with traps := p.traps.filter (·.1 != 0), skip := .none, status }
      let r ← tryCatch (runText fuel action *> pure none) (fun h => pure (some h))
      match r with
      | some (.exit s) => return s
      | some .error => return status
      | some h => throw h
      | none => return status
    | none => return status

def dotrap : Nat → Sh Unit
  | 0 => throw .exhausted
  | fuel + 1 => do
    let p ← getProc
    let w ← getWorld
    let mine := w.pending.filter (·.1 == p.self)
    if mine.isEmpty then return
    modifyWorld fun w => { w with pending := w.pending.filter (·.1 != p.self) }
    for (_, sig) in mine do
      let q ← getProc
      match q.traps.find? (·.1 == sig) with
      | some (_, action) =>
        if !action.isEmpty then
          let saved := q.status
          let _ ← runText fuel action
          let q ← getProc
          if q.skip != .returning then setStatus saved
      | none =>
        if !ignoredByDefault sig then throw (.killed sig p.self)

/-- A command substitution: runs the commands in a subshell and answers their output,
trailing newlines removed; the status is kept for a command without a name. -/
def substitute : Nat → Option Cmd → Sh ByteStr
  | 0, _ => throw .exhausted
  | fuel + 1, body => do
    let slot ← openCapture
    let pid ← newPid
    let st ← subshell fuel pid do
      modifyProc (·.withPort 1 (some { output := some (.capture slot) }))
      runOpt fuel false body
    let data ← closeCapture
    modifyProc fun p => { p with substStatus := st }
    return dropTrailingNewlines (ofBytes data)

/-- The commands of a pipeline, each in a subshell, each one's output the next one's
input; the last one's status is the pipeline's. -/
def runPipeline : Nat → Bool → List Cmd → Option Nat → Sh Unit
  | 0, _, _, _ => throw .exhausted
  | _ + 1, _, [], _ => pure ()
  | fuel + 1, tested, c :: rest, input => do
    let pid ← newPid
    let slot ← if rest.isEmpty then pure none else some <$> openCapture
    let st ← subshell fuel pid do
      match input with
      | some k => modifyProc (·.withPort 0 (some { input := some k }))
      | none => pure ()
      match slot with
      | some s => modifyProc (·.withPort 1 (some { output := some (.capture s) }))
      | none => pure ()
      runCmd fuel tested c
    match slot with
    | some _ =>
      let data ← closeCapture
      let k ← openStream (ofBytes data)
      runPipeline fuel tested rest (some k)
    | none => setStatus st

/-- Opens redirections in order; answers false (with the message written and status 2)
when one cannot be made. -/
def applyRedirs : Nat → List Redir → Sh Bool
  | 0, _ => throw .exhausted
  | _ + 1, [] => return true
  | fuel + 1, (.mk fd op target) :: rest => do
    let ok ← match op with
      | .hereDoc id _ => do
        let body := ((← getWorld).hereDocs.find? (·.1 == id)).map (·.2) |>.getD []
        let text ← expandText (substitute fuel) body
        let k ← openStream text
        modifyProc (·.withPort fd (some { input := some k }))
        pure true
      | _ => do
        let name ← expandText (substitute fuel) target
        match op with
        | .input => openRead fd name
        | .output => openWrite fd name false false
        | .append => openWrite fd name true false
        | .readWrite => openWrite fd name true true
        | _ => duplicateFd fd name
    if ok then applyRedirs fuel rest else return false

end

end PluginLens.Command
