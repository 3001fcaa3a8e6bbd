
/-!
# The command line

The command takes only options:

* `-i`, `--input <INPUT>`: a plugin file (repeatable);
* `-d`, `--folder <FOLDER>`: a folder scanned for plugin files (repeatable);
* `--config <CONFIG>`, `-o`/`--output <OUTPUT>`, `-f`/`--format <FORMAT>` (default `json`)
  and `--serve <SERVE>` (a port), each at most once;
* `-h`/`--help` and `-V`/`--version`.

Arguments are read left to right. A value follows its option as the next argument, after
`=` (`--input=a.js`, `-i=a.js`) or directly after a short name (`-ia.js`). An option and the
value given with it as the next argument are taken when the next option or the end comes:
only then is an option without a value, a second value of a single-valued option or a bad
value refused, and an unexpected argument coming first is reported instead. Help and version
stop the reading where they stand. A path may not be empty, and a port is a number from 0
to 65535. Everything else (a plain word, an unknown option, anything after `--`) is an
unexpected argument; an unknown long option is matched against the known ones, and the
closest one is suggested when it is close enough.
-/

namespace PluginLens.Cli

/-- The options of the command. -/
inductive Flag where
  | input
  | folder
  | config
  | output
  | format
  | serve
  | help
  | version
  deriving DecidableEq, Inhabited, Repr

def Flag.all : List Flag := [.input, .folder, .config, .output, .format, .serve, .help, .version]

/-- The long name. -/
def Flag.long : Flag → String
  | .input => "input"
  | .folder => "folder"
  | .config => "config"
  | .output => "output"
  | .format => "format"
  | .serve => "serve"
  | .help => "help"
  | .version => "version"

/-- The short name, if any. -/
def Flag.short? : Flag → Option Char
  | .input => some 'i'
  | .folder => some 'd'
  | .config => none
  | .output => some 'o'
  | .format => some 'f'
  | .serve => none
  | .help => some 'h'
  | .version => some 'V'

/-- The name of the value an option takes, if it takes one. -/
def Flag.valueName? : Flag → Option String
  | .input => some "INPUT"
  | .folder => some "FOLDER"
  | .config => some "CONFIG"
  | .output => some "OUTPUT"
  | .format => some "FORMAT"
  | .serve => some "SERVE"
  | .help | .version => none

def Flag.repeatable : Flag → Bool
  | .input | .folder => true
  | _ => false

def Flag.takesPath : Flag → Bool
  | .input | .folder | .config | .output => true
  | _ => false

/-- How messages name an option: `--input <INPUT>`, `--help`. -/
def Flag.display (f : Flag) : String :=
  match f.valueName? with
  | some v => "--" ++ f.long ++ " <" ++ v ++ ">"
  | none => "--" ++ f.long

/-- A run the command line asks for. -/
structure Invocation where
  inputs : List String := []
  folders : List String := []
  config : Option String := none
  output : Option String := none
  format : Option String := none
  serve : Option Nat := none
  deriving Inhabited, Repr

def Invocation.formatName (inv : Invocation) : String := inv.format.getD "json"

/-- What the command line asks for. -/
inductive Request where
  | run (inv : Invocation)
  | help
  | version
  deriving Inhabited, Repr

/-- What a usage line shows: options one by one, then the group of the command's own
options when it is named as a whole. With neither, the usage line is the generic one. -/
structure UsageShape where
  flags : List Flag := []
  grouped : Bool := false
  deriving Inhabited, Repr

/-- Why a command line was refused. -/
inductive UsageError where
  | missingValue (f : Flag)
  | unexpected (arg : String) (suggestion : Option Flag) (shape : UsageShape)
  | repeated (f : Flag)
  | unwantedValue (value : String) (f : Flag) (shape : UsageShape)
  | badValue (value : String) (f : Flag) (reason : String)
  deriving Inhabited, Repr

/-- Whether an option belongs to the group of the command's own options (help and version
do not). -/
def Flag.grouped : Flag → Bool
  | .help | .version => false
  | _ => true

def groupText : String :=
  "<" ++ "|".intercalate ((Flag.all.filter Flag.grouped).map Flag.display) ++ ">"

/-- The usage line: the generic one, or the options followed by the group. -/
def usageLine (shape : UsageShape) : String :=
  if shape.flags.isEmpty && !shape.grouped then "Usage: plugin-scout [OPTIONS]"
  else
    "Usage: plugin-scout" ++ String.join (shape.flags.map fun f => " " ++ f.display) ++
      (if shape.grouped then " " ++ groupText else "")

/-- The text of a refusal, as written to the error stream. -/
def UsageError.render (e : UsageError) : String :=
  let withUsage (s : String) (shape : UsageShape) := s ++ "\n\n" ++ usageLine shape
  let body := match e with
    | .missingValue f => "a value is required for '" ++ f.display ++ "' but none was supplied"
    | .unexpected arg none shape => withUsage ("unexpected argument '" ++ arg ++ "' found") shape
    | .unexpected arg (some s) shape =>
      withUsage ("unexpected argument '" ++ arg ++ "' found\n\n  tip: a similar argument exists: '--" ++
        s.long ++ "'") shape
    | .repeated f => withUsage ("the argument '" ++ f.display ++ "' cannot be used multiple times") {}
    | .unwantedValue v f shape =>
      withUsage ("unexpected value '" ++ v ++ "' for '" ++ f.display ++ "' found; no more were expected") shape
    | .badValue v f reason => "invalid value '" ++ v ++ "' for '" ++ f.display ++ "': " ++ reason
  "error: " ++ body ++ "\n\nFor more information, try '--help'.\n"

/-- The Jaro similarity of two texts, as a double. -/
def jaro (a b : String) : Float :=
  let xs := a.toList.toArray
  let ys := b.toList.toArray
  if xs.size == 0 && ys.size == 0 then 1.0
  else if xs.size == 0 || ys.size == 0 then 0.0
  else
    let range := max xs.size ys.size / 2 - 1
    let (aFlags, bFlags, found) := (List.range xs.size).foldl (fun (af, bf, m) i =>
      let lo := i - range
      let hi := min ys.size (i + range + 1)
      match (List.range hi).find? (fun j => lo ≤ j && xs[i]? == ys[j]? && !(bf.getD j false)) with
      | some j => (af.set! i true, bf.set! j true, m + 1)
      | none => (af, bf, m)) (Array.replicate xs.size false, Array.replicate ys.size false, 0)
    if found == 0 then 0.0
    else
      let picked (flags : Array Bool) (cs : Array Char) : List Char :=
        (List.range cs.size).filterMap fun k => if flags.getD k false then cs[k]? else none
      let pairs := (picked aFlags xs).zip (picked bFlags ys)
      let transpositions := (pairs.filter fun (p, q) => p != q).length / 2
      let m := found.toFloat
      (m / xs.size.toFloat + m / ys.size.toFloat + (found - transpositions).toFloat / m) / 3.0

/-- The known long option most like `name`, if one is close enough; among equally close
ones, the last declared. -/
def suggestLong (name : String) : Option Flag :=
  let scored := Flag.all.filterMap fun f =>
    let c := jaro name f.long
    if c > 0.7 then some (c, f) else none
  (scored.foldl (fun best (c, f) => match best with
    | some (bc, _) => if c ≥ bc then some (c, f) else best
    | none => some (c, f)) none).map (·.2)

/-- The value of a port. -/
def portValue (v : String) : Except String Nat :=
  let (negative, digits) :=
    if v.startsWith "-" then (true, (v.drop 1).toString)
    else if v.startsWith "+" then (false, (v.drop 1).toString)
    else (false, v)
  if v.isEmpty then .error "cannot parse integer from empty string"
  else if digits.isEmpty || !digits.all Char.isDigit then .error "invalid digit found in string"
  else
    let n := digits.toNat?.getD 0
    if negative then
      if n > Nat.pow 2 63 then .error "number too small to fit in target type"
      else if n == 0 then .ok 0
      else .error ("-" ++ toString n ++ " is not in 0..=65535")
    else if n ≥ Nat.pow 2 63 then .error "number too large to fit in target type"
    else if n > 65535 then .error (toString n ++ " is not in 0..=65535")
    else .ok n

/-- The state of reading: what was read, the options taken so far (in the order first
taken), whether the group of the command's own options was entered, and the option met last
with the value it was given, if any, which is taken only when the next option or the end
comes. -/
structure ReadState where
  inv : Invocation := {}
  taken : List Flag := []
  grouped : Bool := false
  pending : Option (Flag × Option String) := none
  deriving Inhabited

/-- The usage shape of what was taken and `extra`, the group named as a whole once one of its
options was taken: the shape of a value given to an option that takes none. -/
def ReadState.shape (st : ReadState) (extra : List Flag) : UsageShape :=
  { flags := (st.taken ++ extra).filter (!·.grouped), grouped := st.grouped || extra.any Flag.grouped }

/-- The usage shape of what was taken and the option suggested for an unknown one, each
option by itself: the shape of a refused option with a suggestion. -/
def ReadState.suggestionShape (st : ReadState) (suggestion : Option Flag) : UsageShape :=
  match suggestion with
  | some f => { flags := if st.taken.contains f then st.taken else st.taken ++ [f] }
  | none => { flags := st.taken }

def ReadState.take (st : ReadState) (f : Flag) : ReadState :=
  { st with taken := if st.taken.contains f then st.taken else st.taken ++ [f],
            grouped := st.grouped || f.grouped }

/-- Takes the value of an option: refused for an option given once already (which is then
no longer counted as taken), else the option is taken and its value checked. -/
def ReadState.give (st : ReadState) (f : Flag) (v : String) : ReadState × Option UsageError :=
  if !f.repeatable && st.taken.contains f then
    ({ st with taken := st.taken.erase f }, some (.repeated f))
  else
    let st := st.take f
    if f.takesPath && v.isEmpty then (st, some (.missingValue f))
    else
      let inv := st.inv
      match f with
      | .input => ({ st with inv := { inv with inputs := inv.inputs ++ [v] } }, none)
      | .folder => ({ st with inv := { inv with folders := inv.folders ++ [v] } }, none)
      | .config => ({ st with inv := { inv with config := some v } }, none)
      | .output => ({ st with inv := { inv with output := some v } }, none)
      | .format => ({ st with inv := { inv with format := some v } }, none)
      | .serve =>
        match portValue v with
        | .ok n => ({ st with inv := { inv with serve := some n } }, none)
        | .error reason => (st, some (.badValue v f reason))
      | .help | .version => (st, none)

/-- Takes the option met last, if any: the state after it, and the refusal it meets. -/
def ReadState.resolve (st : ReadState) : ReadState × Option UsageError :=
  match st.pending with
  | none => (st, none)
  | some (f, none) => ({ st with pending := none }, some (.missingValue f))
  | some (f, some v) => ({ st with pending := none }.give f v)

/-- Takes the option met last, failing with its refusal. -/
def ReadState.settle (st : ReadState) : Except UsageError ReadState :=
  match st.resolve with
  | (_, some e) => .error e
  | (st, none) => .ok st

abbrev Step := Except UsageError (Sum Request ReadState)

/-- Meets option `f` with an attached value, if any: the option met before is taken first. -/
def ReadState.meet (st : ReadState) (f : Flag) (attached : Option String) : Step := do
  let st ← st.settle
  match f with
  | .help => pure (.inl .help)
  | .version => pure (.inl .version)
  | _ =>
    match attached with
    | some v => pure (.inr (← ({ st with pending := some (f, some v) } : ReadState).settle))
    | none => pure (.inr { st with pending := some (f, none) })

/-- Refuses an argument that is not expected; the usage line is the generic one, and a
refusal of the option met before is not reported. -/
def ReadState.stray {α : Type} (_st : ReadState) (arg : String) : Except UsageError α :=
  .error (.unexpected arg none {})

/-- Reads the characters after a single dash. -/
def shortCluster (st : ReadState) (arg : String) : List Char → Step
  | [] => pure (.inr st)
  | c :: rest =>
    match Flag.all.find? (·.short? == some c) with
    | none => st.stray ("-" ++ String.singleton c)
    | some f =>
      if f.valueName?.isSome then
        let attached := match rest with
          | [] => none
          | '=' :: v => some (String.ofList v)
          | v => some (String.ofList v)
        st.meet f attached
      else
        match st.meet f none with
        | .ok (.inr st) => shortCluster st arg rest
        | other => other

/-- Reads one argument. `escaped` tells whether `--` was seen. -/
def readArgument (st : ReadState) (escaped : Bool) (arg : String) : Except UsageError (Sum Request (ReadState × Bool)) := do
  if escaped then st.stray arg
  if arg == "--" then
    return .inr (st, true)
  if arg.startsWith "--" then
    let body := (arg.drop 2).toString
    let (name, attached) := match body.splitOn "=" with
      | [n] => (n, none)
      | n :: rest => (n, some ("=".intercalate rest))
      | [] => (body, none)
    match Flag.all.find? (·.long == name) with
    | none =>
      let st := st.resolve.1
      let suggestion := suggestLong name
      throw (.unexpected ("--" ++ name) suggestion (st.suggestionShape suggestion))
    | some f =>
      if f.valueName?.isNone then
        if let some v := attached then throw (.unwantedValue v f (st.shape [f]))
      match ← st.meet f attached with
      | .inl r => return .inl r
      | .inr st => return .inr (st, false)
  if arg.startsWith "-" && arg.length > 1 then
    match ← shortCluster st arg (arg.drop 1).toString.toList with
    | .inl r => return .inl r
    | .inr st => return .inr (st, false)
  match st.pending with
  | some (f, none) => return .inr ({ st with pending := some (f, some arg) }, false)
  | _ => st.stray arg

/-- Reads the arguments after the program name. -/
def parseArguments (args : List String) : Except UsageError Request :=
  go args {} false
where
  go : List String → ReadState → Bool → Except UsageError Request
    | [], st, _ => do
      let st ← st.settle
      pure (.run st.inv)
    | arg :: rest, st, escaped => do
      match ← readArgument st escaped arg with
      | .inl r => pure r
      | .inr (st, escaped) => go rest st escaped

def versionText : String := "plugin_scout 0.1.0\n"

/-- The help text. -/
def helpText : String :=
  "Plugin Scout - Static introspection of JavaScript plugin files: primary export, bindings, and exposed capabilities.\n\n" ++
  usageLine {} ++ "\n\n" ++
  "Options:\n" ++
  "  -i, --input <INPUT>    Plugin file to introspect (can specify multiple)\n" ++
  "  -d, --folder <FOLDER>  Folder scanned recursively for plugin files\n" ++
  "      --config <CONFIG>  TOML configuration file\n" ++
  "  -o, --output <OUTPUT>  Output file path; stdout when omitted\n" ++
  "  -f, --format <FORMAT>  Output format (json, text) [default: json]\n" ++
  "      --serve <SERVE>    Serve line-delimited JSON requests on this port instead of a one-shot run\n" ++
  "  -h, --help             Print help\n" ++
  "  -V, --version          Print version\n"

end PluginLens.Cli
