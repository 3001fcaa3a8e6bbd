import PluginLens.Command.Script.Syntax
import PluginLens.Command.Paths
import PluginLens.Command.Test

/-!
# A running shell

The state of a shell while it runs a script, in two parts. The *process* part (`Proc`) is
what a subshell receives a copy of and loses on leaving: variables, positional parameters,
functions, open descriptors, options, traps, the status of the last command and the working
directory. The *world* part (`World`) is shared by every process of a run: the workspace's
files, what reached the standard output and standard error, the buffers capturing the
output of command substitutions and pipes, the input streams, and process numbers.

Running is a computation in `Sh`: it changes the shell and may stop with a `Halt` — the
shell exiting, a shell error, a signal, or the step budget running out. The state outlives a
halt, so whatever was written before an error stays written.

Messages of the shell read `NAME: LINE: text`, where NAME is `$0` and LINE the line of the
command being run; while a builtin runs its name comes after the line.
-/

namespace PluginLens.Command

open ByteStr

/-- Where bytes written to a descriptor go. -/
inductive Sink where
  | stdout
  | stderr
  | null
  | capture (slot : Nat)
  | file (path : List String)
  deriving BEq, Inhabited, Repr

/-- An open descriptor: the input stream it reads, the sink it writes, or both. -/
structure Port where
  input : Option Nat := none
  output : Option Sink := none
  deriving BEq, Inhabited, Repr

/-- A shell variable: its value (`none` when it was declared without one) and its
attributes. -/
structure Var where
  value : Option ByteStr
  exported : Bool := false
  readonly : Bool := false
  deriving Inhabited, Repr

/-- Why the rest of a loop body or function is being skipped. -/
inductive Skip where
  | none
  | breaking (count : Nat)
  | continuing (count : Nat)
  | returning
  deriving BEq, Inhabited, Repr

/-- The part of a shell that belongs to one process. -/
structure Proc where
  vars : List (ByteStr × Var)
  /-- `$0`, also the name that starts every message. -/
  arg0 : ByteStr
  params : List ByteStr
  funcs : List (ByteStr × Cmd) := []
  fds : List (Nat × Port)
  /-- `$?`. -/
  status : Nat := 0
  /-- The option letters that are on (`e`, `u`, `x`, `f`, …). -/
  flags : List Char := []
  /-- Trap actions by signal number, `0` for the exit of the shell. An empty action ignores
  the signal. -/
  traps : List (Nat × ByteStr) := []
  skip : Skip := .none
  /-- How many loops enclose the running command (within the running function). -/
  loops : Nat := 0
  /-- How many function calls are running. -/
  funcDepth : Nat := 0
  /-- For each running function, the variables it made local with their earlier state. -/
  locals : List (List (ByteStr × Option Var)) := []
  /-- The line of the command being run. -/
  line : Nat := 0
  /-- The name of the builtin being run, shown in its messages. -/
  builtinName : Option ByteStr := none
  /-- `$!`. -/
  lastBackground : Option Nat := none
  /-- The working directory, as components inside the workspace. -/
  cwd : List String := []
  /-- The status of the last command substitution, which a command without a name takes. -/
  substStatus : Nat := 0
  /-- `$$`: the process number of the shell, which its subshells share. -/
  shellPid : Nat := 0
  /-- The process number of this process itself, which signals are sent to. -/
  self : Nat := 0
  /-- The aliases, in the order they were first defined. -/
  aliases : List (ByteStr × ByteStr) := []
  /-- The file mode creation mask. -/
  umask : Nat := 0o022
  /-- Where `getopts` goes on: the number (from 1) of the next word to look at. -/
  optIndex : Nat := 1
  /-- Where `getopts` goes on inside the word before `optIndex`, while a cluster of option
  letters is under way: the offset of the next letter. -/
  optOffset : Option Nat := none
  deriving Inhabited

/-- The part of a shell shared by all of its processes. -/
structure World where
  ws : Workspace
  out : ByteArray := .empty
  err : ByteArray := .empty
  /-- Capture buffers, innermost last. -/
  captures : Array ByteArray := #[]
  /-- Input streams: the bytes not read yet. -/
  streams : Array ByteStr := #[]
  nextPid : Nat
  /-- Finished background jobs: process number and status. -/
  jobs : List (Nat × Nat) := []
  /-- Signals sent and not yet acted on: the receiving process and the signal. -/
  pending : List (Nat × Nat) := []
  /-- Here-document bodies of the scripts read so far, by number. -/
  hereDocs : HereDocs := []
  /-- The number of the next here-document. -/
  nextHere : Nat := 0
  /-- How many more commands may run before the run is cut off. -/
  steps : Nat
  deriving Inhabited

/-- A running shell. -/
structure Shell where
  proc : Proc
  world : World
  deriving Inhabited

/-- Why running stopped early. -/
inductive Halt where
  | exit (status : Nat)
  | error
  | killed (signal : Nat) (target : Nat)
  | exhausted
  deriving Inhabited, BEq, Repr

abbrev Sh := ExceptT Halt (StateM Shell)

def flagOrder : List Char := "ubaCEVvxsnmiIfe".toList

def defaultIfs : ByteStr := " \t\n".toList

namespace Proc

def var? (p : Proc) (name : ByteStr) : Option Var :=
  (p.vars.find? (·.1 == name)).map (·.2)

def value? (p : Proc) (name : ByteStr) : Option ByteStr :=
  (p.var? name).bind (·.value)

def withVar (p : Proc) (name : ByteStr) (v : Var) : Proc :=
  { p with vars := (name, v) :: p.vars.filter (·.1 != name) }

def withoutVar (p : Proc) (name : ByteStr) : Proc :=
  { p with vars := p.vars.filter (·.1 != name) }

def ifs (p : Proc) : ByteStr := (p.value? "IFS".toList).getD defaultIfs

def flag (p : Proc) (c : Char) : Bool := p.flags.contains c

def flagText (p : Proc) : ByteStr := flagOrder.filter p.flags.contains

def port? (p : Proc) (fd : Nat) : Option Port := (p.fds.find? (·.1 == fd)).map (·.2)

def withPort (p : Proc) (fd : Nat) (port : Option Port) : Proc :=
  let rest := p.fds.filter (·.1 != fd)
  { p with fds := match port with
    | some q => (fd, q) :: rest
    | none => rest }

def func? (p : Proc) (name : ByteStr) : Option Cmd := (p.funcs.find? (·.1 == name)).map (·.2)

def cwdPrefix (p : Proc) : String :=
  p.cwd.foldl (fun acc c => acc ++ c ++ "/") ""

end Proc

def World.emit (w : World) (s : Sink) (b : ByteArray) : World :=
  match s with
  | .stdout => { w with out := w.out ++ b }
  | .stderr => { w with err := w.err ++ b }
  | .null => w
  | .capture k => { w with captures := w.captures.modify k (· ++ b) }
  | .file cs => { w with ws := w.ws.appendAt cs b }

namespace Sh

def getProc : Sh Proc := do return (← get).proc

def getWorld : Sh World := do return (← get).world

def modifyProc (f : Proc → Proc) : Sh Unit := modify fun s => { s with proc := f s.proc }

def modifyWorld (f : World → World) : Sh Unit := modify fun s => { s with world := f s.world }

def setProc (p : Proc) : Sh Unit := modifyProc fun _ => p

def setStatus (n : Nat) : Sh Unit := modifyProc fun p => { p with status := n }

def tick : Sh Unit := do
  let w ← getWorld
  if w.steps == 0 then throw .exhausted
  modifyWorld fun w => { w with steps := w.steps - 1 }

def writeFd (fd : Nat) (b : ByteStr) : Sh Bool := do
  match (← getProc).port? fd with
  | some { output := some s, .. } =>
    if !b.isEmpty then modifyWorld fun w => w.emit s b.toBytes
    return true
  | _ => return false

def out (b : ByteStr) : Sh Unit := do
  let _ ← writeFd 1 b

def messageHead : Sh ByteStr := do
  let p ← getProc
  let head := p.arg0 ++ ": ".toList ++ ofNat p.line ++ ": ".toList
  return match p.builtinName with
    | some n => head ++ n ++ ": ".toList
    | none => head

def warn (msg : ByteStr) : Sh Unit := do
  let head ← messageHead
  let _ ← writeFd 2 (head ++ msg ++ ['\n'])

def fail {α : Type} (msg : ByteStr) : Sh α := do
  warn msg
  setStatus 2
  throw .error

def setVarPlain (name value : ByteStr) : Sh Unit := do
  let p ← getProc
  match p.var? name with
  | some v =>
    if v.readonly then fail (name ++ ": is read only".toList)
    setProc (p.withVar name { v with value := some value, exported := v.exported || p.flag 'a' })
  | none => setProc (p.withVar name { value := some value, exported := p.flag 'a' })

/-- Sets a variable, refusing a read-only one. Setting `OPTIND` to a number restarts
`getopts` at that word (at the first for `0`); any other value is an error. -/
def setVar (name value : ByteStr) : Sh Unit := do
  setVarPlain name value
  if name == "OPTIND".toList then
    match decimalValue? value with
    | some n =>
      if n < 0 || n > 2147483647 then fail ("Illegal number: ".toList ++ value)
      modifyProc fun p => { p with optIndex := if n == 0 then 1 else n.toNat, optOffset := none }
    | none => fail ("Illegal number: ".toList ++ value)

def openStream (b : ByteStr) : Sh Nat := do
  let w ← getWorld
  modifyWorld fun w => { w with streams := w.streams.push b }
  return w.streams.size

def inputOf? (fd : Nat) : Sh (Option Nat) := do
  return ((← getProc).port? fd).bind (·.input)

def drainStream (k : Nat) : Sh ByteStr := do
  let w ← getWorld
  let b := w.streams.getD k []
  modifyWorld fun w => { w with streams := w.streams.set! k [] }
  return b

def takeByte (k : Nat) : Sh (Option Char) := do
  let w ← getWorld
  match w.streams.getD k [] with
  | c :: rest =>
    modifyWorld fun w => { w with streams := w.streams.set! k rest }
    return some c
  | [] => return none

def readAll (fd : Nat) : Sh ByteStr := do
  match ← inputOf? fd with
  | some k => drainStream k
  | none => return []

def openCapture : Sh Nat := do
  let w ← getWorld
  modifyWorld fun w => { w with captures := w.captures.push .empty }
  return w.captures.size

def closeCapture : Sh ByteArray := do
  let w ← getWorld
  modifyWorld fun w => { w with captures := w.captures.pop }
  return w.captures.back?.getD .empty

def newPid : Sh Nat := do
  let w ← getWorld
  modifyWorld fun w => { w with nextPid := w.nextPid + 1 }
  return w.nextPid

end Sh

end PluginLens.Command
