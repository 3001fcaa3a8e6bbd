import PluginLens.Command.ByteStr

/-!
# Command-line options of the utilities

The utilities read their options in the usual way of the system tools: short options after one dash, several in one
argument (`-nE`); long options after two dashes, which may be shortened to any prefix that
names one option (`--num` for `--number`), taking a value after `=` or in the next argument.
Options and operands may be mixed unless the program stops at its first operand; `--` ends
the options and a lone `-` is an operand.

A mistake is reported as the C library words it, followed by the program's pointer to its
help.
-/

namespace PluginLens.Command

open ByteStr

/-- Whether an option takes a value. -/
inductive ArgKind where
  | none
  | required
  | optional
  deriving BEq, Inhabited

/-- An option a program accepts. -/
structure OptDef where
  /-- The letter the option is reported by: its short form, or a letter of its own. -/
  key : Char
  /-- Whether `-key` is accepted. -/
  short : Bool := true
  long : Option String := none
  arg : ArgKind := .none
  deriving Inhabited

/-- A mistake on a command line. -/
inductive OptError where
  | invalid (c : Char)
  | unrecognized (arg : ByteStr)
  | needsArg (c : Char)
  | needsArgLong (name : String)
  | noArgAllowed (name : String)
  | ambiguous (arg : ByteStr) (names : List String)
  deriving Inhabited

def OptError.message : OptError → ByteStr
  | .invalid c => "invalid option -- '".toList ++ [c, '\'']
  | .unrecognized a => "unrecognized option '".toList ++ a ++ ['\'']
  | .needsArg c => "option requires an argument -- '".toList ++ [c, '\'']
  | .needsArgLong n => "option '--".toList ++ n.toList ++ "' requires an argument".toList
  | .noArgAllowed n => "option '--".toList ++ n.toList ++ "' doesn't allow an argument".toList
  | .ambiguous a ns =>
    "option '--".toList ++ a ++ "' is ambiguous; possibilities:".toList ++
      (ns.flatMap fun n => " '--".toList ++ n.toList ++ ['\''])

/-- Options read so far (latest first) and operands (latest first). -/
structure OptRead where
  opts : List (Char × Option ByteStr) := []
  operands : List ByteStr := []

/-- Reads a cluster of short options (the bytes after the dash); may take the next argument
as a value. Answers the options read and the arguments left. -/
def readShortCluster (defs : List OptDef) : Nat → ByteStr → List ByteStr →
    List (Char × Option ByteStr) → Except OptError (List (Char × Option ByteStr) × List ByteStr)
  | 0, _, rest, acc => .ok (acc, rest)
  | _ + 1, [], rest, acc => .ok (acc, rest)
  | fuel + 1, c :: more, rest, acc =>
    match defs.find? (fun d => d.short && d.key == c) with
    | none => .error (.invalid c)
    | some d =>
      match d.arg with
      | .required =>
        if !more.isEmpty then .ok ((c, some more) :: acc, rest)
        else match rest with
          | v :: rest' => .ok ((c, some v) :: acc, rest')
          | [] => .error (.needsArg c)
      | _ => readShortCluster defs fuel more rest ((c, none) :: acc)

/-- Reads a long option (the bytes after the two dashes); may take the next argument as a
value. -/
def readLong (defs : List OptDef) (body : ByteStr) (rest : List ByteStr) :
    Except OptError ((Char × Option ByteStr) × List ByteStr) :=
  let name := body.takeWhile (· != '=')
  let value := if name.length < body.length then some (body.drop (name.length + 1)) else none
  let longs := defs.filterMap fun d => d.long.map (d, ·)
  let exact := longs.find? fun (_, n) => n.toList == name
  let cands := longs.filter fun (_, n) => startsWith n.toList name
  let chosen : Except OptError (OptDef × String) :=
    match exact with
    | some x => .ok x
    | none =>
      match cands with
      | [] => .error (.unrecognized ("--".toList ++ body))
      | first :: others =>
        if others.all (fun (d, _) => d.key == first.1.key) then .ok first
        else .error (.ambiguous body (cands.map (·.2)))
  match chosen with
  | .error e => .error e
  | .ok (d, n) =>
    match d.arg, value with
    | .none, some _ => .error (.noArgAllowed n)
    | .none, none => .ok ((d.key, none), rest)
    | .optional, v => .ok ((d.key, v), rest)
    | .required, some v => .ok ((d.key, some v), rest)
    | .required, none =>
      match rest with
      | v :: rest' => .ok ((d.key, some v), rest')
      | [] => .error (.needsArgLong n)

/-- Reads a command line: the options in order and the operands. With `permute` options may
follow operands; otherwise the first operand ends the options. -/
def readOptions (defs : List OptDef) (permute : Bool) (args : List ByteStr) :
    Except OptError (List (Char × Option ByteStr) × List ByteStr) :=
  go (args.length + 1) args {}
where
  go : Nat → List ByteStr → OptRead → Except OptError (List (Char × Option ByteStr) × List ByteStr)
    | 0, rest, st => .ok (st.opts.reverse, st.operands.reverse ++ rest)
    | _ + 1, [], st => .ok (st.opts.reverse, st.operands.reverse)
    | fuel + 1, a :: rest, st =>
      match a with
      | ['-', '-'] => .ok (st.opts.reverse, st.operands.reverse ++ rest)
      | '-' :: '-' :: body =>
        match readLong defs body rest with
        | .ok (o, rest') => go fuel rest' { st with opts := o :: st.opts }
        | .error e => .error e
      | '-' :: c :: more =>
        match readShortCluster defs (more.length + 2) (c :: more) rest [] with
        | .ok (os, rest') => go fuel rest' { st with opts := os ++ st.opts }
        | .error e => .error e
      | _ =>
        if permute then go fuel rest { st with operands := a :: st.operands }
        else .ok (st.opts.reverse, st.operands.reverse ++ a :: rest)

def hasOpt (opts : List (Char × Option ByteStr)) (c : Char) : Bool := opts.any (·.1 == c)

def optValue? (opts : List (Char × Option ByteStr)) (c : Char) : Option ByteStr :=
  (opts.reverse.find? (·.1 == c)).bind (·.2)

end PluginLens.Command
