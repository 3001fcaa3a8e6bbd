import PluginLens.Command.ByteStr

/-!
# Shell scripts as trees

The command language of `sh`: words made of literal, quoted and expanded parts; simple
commands with their variable assignments and redirections; and the compound commands built
from them — pipelines, `&&`/`||` chains, lists, subshells, brace groups, `if`, `while` and
`until`, `for`, `case` and function definitions.

A word keeps what the expansions need: which text was quoted (and so is neither split into
fields nor matched as a pattern), and which parts are parameter expansions, command
substitutions or arithmetic, each remembering whether it stood inside double quotes. A
command substitution holds the commands it runs, read together with the script around it,
so that a syntax error inside it is found before anything on its line runs.

Here-document bodies are read after the line that names them, so a redirection refers to its
body by a number; the bodies are kept beside the tree (`HereDocs`).
-/

namespace PluginLens.Command

/-- What a parameter expansion `${name…}` does with the parameter and its word. A `colon`
form treats a set but empty parameter as unset. -/
inductive ParamOp where
  | plain
  | length
  | orDefault (colon : Bool)
  | orAssign (colon : Bool)
  | orFail (colon : Bool)
  | ifSet (colon : Bool)
  /-- `${name#pattern}`, `${name##pattern}`: the value without its shortest (longest)
  prefix matching the pattern. -/
  | dropPrefix (longest : Bool)
  /-- `${name%pattern}`, `${name%%pattern}`: the value without its shortest (longest)
  suffix matching the pattern. -/
  | dropSuffix (longest : Bool)
  | bad
  deriving Inhabited, Repr, BEq

/-- The kinds of redirection. -/
inductive RedirOp where
  | input
  | output
  | append
  | readWrite
  | dupInput
  | dupOutput
  | hereDoc (id : Nat) (expand : Bool)
  deriving Inhabited, Repr, BEq

mutual

/-- A part of a word. `inQuotes` tells whether an expansion stood inside double quotes, where
its result is neither split into fields nor matched as a pattern. -/
inductive WordPart where
  | lit (s : ByteStr)
  | quoted (s : ByteStr)
  | quoteMark
  | param (name : ByteStr) (op : ParamOp) (arg : List WordPart) (inQuotes : Bool)
  /-- A command substitution `$(…)` or `` `…` `` with the commands it runs (none for an
  empty one). -/
  | subst (body : Option Cmd) (inQuotes : Bool)
  | arith (expr : List WordPart) (inQuotes : Bool)

/-- A redirection of descriptor `fd`; the target is the file name or descriptor word (empty
for a here-document). -/
inductive Redir where
  | mk (fd : Nat) (op : RedirOp) (target : List WordPart)

/-- A command of a script. -/
inductive Cmd where
  | simple (assigns : List (ByteStr × List WordPart)) (words : List (List WordPart))
      (redirs : List Redir) (line : Nat)
  | pipeline (cmds : List Cmd)
  | negate (cmd : Cmd)
  | andThen (a b : Cmd)
  | orElse (a b : Cmd)
  | seq (a b : Cmd)
  | background (a : Cmd)
  | subshell (body : Option Cmd) (redirs : List Redir) (line : Nat)
  | redirected (body : Cmd) (redirs : List Redir)
  | ifThen (cond : Option Cmd) (body : Option Cmd) (other : Option Cmd)
  | loop (untilLoop : Bool) (cond body : Option Cmd)
  | forEach (var : ByteStr) (words : Option (List (List WordPart))) (body : Option Cmd)
      (line : Nat)
  | caseOf (subject : List WordPart) (arms : List (List (List WordPart) × Option Cmd))
      (line : Nat)
  | defun (name : ByteStr) (body : Cmd) (line : Nat)
  | empty

end

abbrev Word := List WordPart

instance : Inhabited Cmd := ⟨.empty⟩

abbrev HereDocs := List (Nat × Word)

end PluginLens.Command
