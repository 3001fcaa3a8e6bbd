import PluginLens.Command.Utility.Files
import PluginLens.Command.Utility.Translate
import PluginLens.Command.Utility.Simple
import PluginLens.Command.Utility.Expr
import PluginLens.Command.Test

/-!
# The installed utilities

The programs found on the search path, apart from the shell and `env`, which run other
programs and so belong to the interpreter. A name that is not here is not installed.
-/

namespace PluginLens.Command

open ByteStr

def programNames : List String :=
  ["cat", "echo", "printf", "true", "false", "tr", "head", "tail", "wc", "tee", "basename",
   "dirname", "seq", "sleep", "mkdir", "touch", "rm", "test", "[", "expr"]

def isProgramName (s : String) : Bool := programNames.contains s

def runTestProgram (inv : Invocation) : Finished :=
  let bracket := inv.name == "["
  let args := if bracket then
      match inv.args.getLast? with
      | some [']'] => some inv.args.dropLast
      | _ => none
    else some inv.args
  match args with
  | none => ({} : Finished).err (utilityMessage inv.name "missing ']'".toList) |>.exit 2
  | some args =>
    let file (op : Char) (path : ByteStr) : Bool :=
      match op, locate inv.ws inv.cwd path with
      | 'e', .regular _ _ | 'e', .directory _ | 'e', .device _ => true
      | 'f', .regular _ _ => true
      | 'd', .directory _ => true
      | 's', .regular _ b => b.size > 0
      | 's', .directory _ => true
      | 'r', .regular _ _ | 'r', .directory _ | 'w', .regular _ _ | 'w', .directory _ => true
      | 'x', .directory _ => true
      | _, _ => false
    match evalTest file args with
    | .ok b => ({} : Finished).exit (if b then 0 else 1)
    | .error e => ({} : Finished).err (utilityMessage inv.name e.text) |>.exit 2

def runUtility (inv : Invocation) : Option Finished :=
  match inv.name with
  | "cat" => some (runCat inv)
  | "echo" => some (runEcho inv)
  | "printf" => some (runPrintf inv)
  | "true" => some (runConstant 0 inv)
  | "false" => some (runConstant 1 inv)
  | "tr" => some (runTr inv)
  | "head" => some (runHeadTail false inv)
  | "tail" => some (runHeadTail true inv)
  | "wc" => some (runWc inv)
  | "tee" => some (runTee inv)
  | "basename" => some (runBasename inv)
  | "dirname" => some (runDirname inv)
  | "seq" => some (runSeq inv)
  | "sleep" => some (runSleep inv)
  | "mkdir" => some (runMkdir inv)
  | "touch" => some (runTouch inv)
  | "rm" => some (runRm inv)
  | "test" | "[" => some (runTestProgram inv)
  | "expr" => some (runExpr inv)
  | _ => none

end PluginLens.Command
