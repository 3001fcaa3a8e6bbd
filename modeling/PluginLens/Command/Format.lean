import PluginLens.Command.Numeral
import PluginLens.Command.Script.Arith

/-!
# `printf` and `echo`

Two `printf`s are modelled: the shell's built-in command and the standalone program. Both
read a format, print its plain bytes and backslash escapes, and fill each conversion
`%[flags][width][.precision]conversion` from the next argument, reusing the format while
arguments are left and at least one was used. They differ in details that show:

* the built-in knows fewer escapes (no `\x`, `\u`, `\c` in the format), reads floating
  point as double, rejects length modifiers (`%ld: invalid directive`), and words its
  complaints `abc: expected numeric value`;
* the program knows `\x`, `\u`, `\U`, `\c`, `%q`, skips length modifiers, reads floating
  point in the extended format, warns about characters after a character constant
  (`'ab`), and words its complaints `'abc': expected a numeric value`.

A numeric argument that is not wholly a number is still used (as far as it goes) and makes
the status 1; a bad conversion stops the output. The two `echo`s are here too: the shell's
always reads escapes and knows only `-n`; the program reads them only after `-e`.
-/

namespace PluginLens.Command

open ByteStr PluginLens.Decimal

/-- Which `printf` runs: the shell's built-in or the standalone program. -/
inductive Dialect where
  | builtin
  | standalone
  deriving Inhabited, BEq, Repr

/-- What a `printf` run produced: its output, its complaints (without the program name) and
its status. -/
structure Printed where
  out : ByteStr := []
  diags : List ByteStr := []
  status : Nat := 0
  /-- Output was cut short by `\c` or a bad conversion. -/
  stopped : Bool := false
  deriving Inhabited

/-- Text quoted the way the standalone programs quote a value in a message:
`'abc'`, with `'` and `\` and unprintable bytes escaped C-style. -/
def quoteArg (s : ByteStr) : ByteStr :=
  '\x27' :: (s.flatMap escapeByte) ++ ['\x27']
where
  escapeByte (c : Char) : ByteStr :=
    let n := c.toNat
    match c with
    | '\x27' => ['\\', '\x27']
    | '\\' => ['\\', '\\']
    | '\n' => ['\\', 'n']
    | '\t' => ['\\', 't']
    | '\r' => ['\\', 'r']
    | '\x07' => ['\\', 'a']
    | '\x08' => ['\\', 'b']
    | '\x0c' => ['\\', 'f']
    | '\x0b' => ['\\', 'v']
    | _ =>
      if n < 0x20 || n ≥ 0x7f then
        let ds := Nat.toDigits 8 n
        '\\' :: (padding (3 - ds.length) '0' ++ ds)
      else [c]

def octalDigits (k : Nat) (cs : ByteStr) : Nat × ByteStr :=
  let ds := (cs.take k).takeWhile isOctal
  (ds.foldl (fun v c => 8 * v + (c.toNat - '0'.toNat)) 0, cs.drop ds.length)

def hexDigits (k : Nat) (cs : ByteStr) : Nat × Nat × ByteStr :=
  let ds := (cs.take k).takeWhile fun c => (hexValue? c).isSome
  (ds.foldl (fun v c => 16 * v + (hexValue? c).getD 0) 0, ds.length, cs.drop ds.length)

def simpleEscape? (c : Char) : Option Char :=
  match c with
  | 'a' => some '\x07'
  | 'b' => some '\x08'
  | 'e' => some '\x1b'
  | 'f' => some '\x0c'
  | 'n' => some '\n'
  | 'r' => some '\r'
  | 't' => some '\t'
  | 'v' => some '\x0b'
  | '\\' => some '\\'
  | _ => none

/-- The outcome of reading one escape: bytes to print, stop all output, or a fatal
complaint. -/
inductive EscapeResult where
  | bytes (b : ByteStr) (rest : ByteStr)
  | stop
  | fatal (msg : ByteStr)
  deriving Inhabited

/-- A Unicode escape as the standalone program prints it in the C locale: ASCII as itself,
anything else as `\uXXXX` or `\UXXXXXXXX`. -/
def unicodeText (big : Bool) (v : Nat) : ByteStr :=
  if v < 0x80 then [byte v]
  else
    let ds := (Nat.toDigits 16 v).map Char.toUpper
    let w := if big || v > 0xffff then 8 else 4
    '\\' :: (if w == 8 then 'U' else 'u') :: (padding (w - ds.length) '0' ++ ds)

/-- Reads the escape after a backslash (`cs` starts after it). `inArg` is set for `%b` and
`echo` arguments, where `\c` stops the output and an octal escape may start with `\0` and
three more digits. -/
def readEscape (d : Dialect) (inArg : Bool) (cs : ByteStr) : EscapeResult :=
  match cs with
  | [] => .bytes ['\\'] []
  | c :: rest =>
    if c == 'c' && (inArg || d == .standalone) then .stop
    else if isOctal c then
      let (v, more) := if inArg && c == '0' then octalDigits 3 rest else octalDigits 3 cs
      .bytes [byte v] more
    else match simpleEscape? c with
      | some e => .bytes [e] rest
      | none =>
        match d, c with
        | .standalone, '"' => .bytes ['"'] rest
        | .standalone, 'x' =>
          let (v, n, more) := hexDigits 2 rest
          if n == 0 then
            if inArg then .fatal "missing hexadecimal number in escape".toList
            else .fatal "missing hexadecimal number in escape".toList
          else .bytes [byte v] more
        | .standalone, 'u' | .standalone, 'U' =>
          let k := if c == 'u' then 4 else 8
          let (v, n, more) := hexDigits k rest
          if n < k then .fatal "missing hexadecimal number in escape".toList
          else .bytes (unicodeText (c == 'U') v) more
        | _, _ => .bytes ['\\'] cs

/-- Interprets the escapes of a `%b` argument: the bytes, and whether `\c` stopped the
output (or a fatal complaint). -/
def escapeArg (d : Dialect) (s : ByteStr) : ByteStr × Bool × Option ByteStr :=
  go (s.length + 1) s []
where
  go : Nat → ByteStr → ByteStr → ByteStr × Bool × Option ByteStr
    | 0, _, acc => (acc.reverse, false, none)
    | _ + 1, [], acc => (acc.reverse, false, none)
    | fuel + 1, c :: rest, acc =>
      if c != '\\' then go fuel rest (c :: acc)
      else match readEscape d true rest with
        | .bytes b more => go fuel more (b.reverse ++ acc)
        | .stop => (acc.reverse, true, none)
        | .fatal m => (acc.reverse, true, some m)

/-- The value of a numeric argument for an integer conversion, with the complaint it gives
(if any) and whether the complaint is only a warning. `signed` reads as `strtoimax`,
otherwise as `strtoumax` (a negative value wraps around). -/
def intArgument (d : Dialect) (signed : Bool) (s : ByteStr) : Int × Option (ByteStr × Bool) :=
  match s with
  | q :: c :: rest =>
    if q == '\x27' || q == '"' then
      let warn := if d == .standalone && !rest.isEmpty then
          some ("warning: ".toList ++ rest ++ ": character(s) following character constant have been ignored".toList, true)
        else none
      ((c.toNat : Int), warn)
    else numeric s
  | [q] => if d == .builtin && (q == '\x27' || q == '"') then (0, none) else numeric s
  | [] => (0, none)
where
  numeric (s : ByteStr) : Int × Option (ByteStr × Bool) :=
    let parsed : Option (Int × ByteStr × Bool) :=
      if signed then readSigned? s
      else match unsignedValue? s with
        | some (v, rest, big) => some ((v : Int), rest, big)
        | none => none
    match parsed with
    | some (v, rest, big) =>
      if big then (v, some (complaint d s "Numerical result out of range", false))
      else if !rest.isEmpty then (v, some (complaint d s (notWhole d), false))
      else (v, none)
    | none => (0, if s.isEmpty then none else some (complaint d s (expected d), false))
  unsignedValue? (s : ByteStr) : Option (Nat × ByteStr × Bool) :=
    let t := s.dropWhile isSpace
    let (neg, t) := match t with
      | '-' :: r => (true, r)
      | '+' :: r => (false, r)
      | _ => (false, t)
    match readMagnitude? t with
    | some (m, rest) =>
      if m ≥ Nat.pow 2 64 then some (Nat.pow 2 64 - 1, rest, true)
      else some ((if neg then (Nat.pow 2 64 - m) % Nat.pow 2 64 else m), rest, false)
    | none => none
  expected (d : Dialect) : String :=
    if d == .builtin then "expected numeric value" else "expected a numeric value"
  notWhole (d : Dialect) : String :=
    if d == .builtin then "not completely converted" else "value not completely converted"
  complaint (d : Dialect) (s : ByteStr) (msg : String) : ByteStr :=
    (if d == .builtin then s else quoteArg s) ++ ": ".toList ++ msg.toList

def floatArgument (d : Dialect) (s : ByteStr) : BinFloat × Option (ByteStr × Bool) :=
  let fmt := if d == .builtin then FloatFormat.double else FloatFormat.extended
  let complaint := fun (msg : String) =>
    (if d == .builtin then s else quoteArg s) ++ ": ".toList ++ msg.toList
  match s with
  | q :: c :: rest =>
    if q == '\x27' || q == '"' then
      let warn := if d == .standalone && !rest.isEmpty then
          some ("warning: ".toList ++ rest ++ ": character(s) following character constant have been ignored".toList, true)
        else none
      (.finite false c.toNat 0, warn)
    else numeric fmt complaint s
  | [q] => if d == .builtin && (q == '\x27' || q == '"') then (.finite false 0 0, none)
    else numeric fmt complaint s
  | [] => (.finite false 0 0, none)
where
  numeric (fmt : FloatFormat) (complaint : String → ByteStr) (s : ByteStr) :
      BinFloat × Option (ByteStr × Bool) :=
    match readFloat? fmt s with
    | some (v, rest, big) =>
      if big then (v, some (complaint "Numerical result out of range", false))
      else if !rest.isEmpty then
        (v, some (complaint (if d == .builtin then "not completely converted"
          else "value not completely converted"), false))
      else (v, none)
    | none =>
      if s.isEmpty then (.finite false 0 0, none)
      else (.finite false 0 0, some (complaint (if d == .builtin then "expected numeric value"
        else "expected a numeric value"), false))

/-- Shell quoting as `%q` prints it: plain when every byte is safe, otherwise in single
quotes (double quotes when the text has a single quote and nothing else to escape), with
unprintable bytes as `$'\ooo'` pieces. -/
def shellQuote (s : ByteStr) : ByteStr :=
  let safe := fun (c : Char) => isAlpha c || isDigit c || "%+,-./:=@_".toList.contains c
  let printable := fun (c : Char) => 0x20 ≤ c.toNat && c.toNat < 0x7f
  if s.isEmpty then ['\x27', '\x27']
  else if s.all safe && s.head? != some '=' then s
  else if s.all printable then
    if s.contains '\x27' then
      if s.any (fun c => c == '"' || c == '$' || c == '`' || c == '\\' || c == '!') then
        '\x27' :: (s.flatMap fun c => if c == '\x27' then "'\\''".toList else [c]) ++ ['\x27']
      else '"' :: s ++ ['"']
    else '\x27' :: s ++ ['\x27']
  else
    -- runs of printable bytes in single quotes, others as $'\ooo'
    let pieces := chunk s
    pieces.flatMap fun (p, ok) =>
      if ok then
        '\x27' :: (p.flatMap fun c => if c == '\x27' then "'\\''".toList else [c]) ++ ['\x27']
      else
        "$'".toList ++ (p.flatMap fun c =>
          match c with
          | '\n' => ['\\', 'n']
          | '\t' => ['\\', 't']
          | '\r' => ['\\', 'r']
          | _ =>
            let ds := Nat.toDigits 8 c.toNat
            '\\' :: (padding (3 - ds.length) '0' ++ ds)) ++ ['\x27']
where
  chunk (s : ByteStr) : List (ByteStr × Bool) :=
    let printable := fun (c : Char) => 0x20 ≤ c.toNat && c.toNat < 0x7f
    s.foldr (fun c acc =>
      match acc with
      | (p, ok) :: rest => if ok == printable c then (c :: p, ok) :: rest else ([c], printable c) :: acc
      | [] => [([c], printable c)]) []

/-- A conversion's specification as read from the format. -/
structure Directive where
  spec : Spec
  conv : Char
  /-- The text of the directive, from `%` to the conversion. -/
  text : ByteStr
  deriving Inhabited

/-- The state of a `printf` run: the arguments left, whether this pass used any, and what
was produced. -/
structure PrintfState where
  args : List ByteStr
  used : Bool := false
  res : Printed := {}
  deriving Inhabited

namespace PrintfState

def next (st : PrintfState) : ByteStr × PrintfState :=
  match st.args with
  | a :: rest => (a, { st with args := rest, used := true })
  | [] => ([], st)

def emit (st : PrintfState) (b : ByteStr) : PrintfState :=
  { st with res := { st.res with out := st.res.out ++ b } }

def complain (st : PrintfState) (c : Option (ByteStr × Bool)) : PrintfState :=
  match c with
  | some (m, warn) =>
    { st with res := { st.res with diags := st.res.diags ++ [m],
                                   status := if warn then st.res.status else max st.res.status 1 } }
  | none => st

def fail (st : PrintfState) (d : Dialect) (m : ByteStr) : PrintfState :=
  { st with res := { st.res with diags := st.res.diags ++ [m],
                                 status := if d == .builtin then 2 else 1, stopped := true } }

def halt (st : PrintfState) : PrintfState := { st with res := { st.res with stopped := true } }

end PrintfState

/-- Reads the flags, width and precision of a directive (`cs` starts after the `%`),
taking `*` values from the arguments. Answers the specification so far, the text read and
the rest of the format, or a fatal complaint. -/
def readSpec (d : Dialect) (cs : ByteStr) (st : PrintfState) :
    Spec × ByteStr × ByteStr × PrintfState × Option ByteStr :=
  let flagChars := if d == .builtin then "#-+ 0".toList else "#-+ 0'I".toList
  let flags := cs.takeWhile flagChars.contains
  let cs := cs.drop flags.length
  let spec : Spec := { left := flags.contains '-', plus := flags.contains '+',
                       space := flags.contains ' ', alt := flags.contains '#',
                       zero := flags.contains '0' }
  -- width
  let (spec, wText, cs, st, err) : Spec × ByteStr × ByteStr × PrintfState × Option ByteStr :=
    match cs with
    | '*' :: rest =>
      let (a, st) := st.next
      let (w, c) := intArgument d true a
      let st := st.complain c
      if d == .standalone && (w < -2147483648 || w > 2147483647) then
        (spec, ['*'], rest, st, some ("invalid field width: ".toList ++ quoteArg a))
      else
        let w := if d == .builtin then ofWord32 w else w
        let spec := if w < 0 then { spec with left := true, width := w.natAbs } else { spec with width := w.toNat }
        (spec, ['*'], rest, st, none)
    | _ =>
      let ds := cs.takeWhile isDigit
      let w := ds.foldl (fun n c => 10 * n + (c.toNat - '0'.toNat)) 0
      ({ spec with width := w }, ds, cs.drop ds.length, st, none)
  match err with
  | some e => (spec, flags ++ wText, cs, st, some e)
  | none =>
    match cs with
    | '.' :: rest =>
      match rest with
      | '*' :: more =>
        let (a, st) := st.next
        let (p, c) := intArgument d true a
        let st := st.complain c
        if d == .standalone && p > 2147483647 then
          (spec, flags ++ wText ++ ['.', '*'], more, st, some ("invalid precision: ".toList ++ quoteArg a))
        else
          let p := if d == .builtin then ofWord32 p else p
          let spec := if p < 0 then spec else { spec with prec := some p.toNat }
          (spec, flags ++ wText ++ ['.', '*'], more, st, none)
      | _ =>
        let ds := rest.takeWhile isDigit
        let p := ds.foldl (fun n c => 10 * n + (c.toNat - '0'.toNat)) 0
        ({ spec with prec := some p }, flags ++ wText ++ '.' :: ds, rest.drop ds.length, st, none)
    | _ => (spec, flags ++ wText, cs, st, none)
where
  /-- A value as the C library's `int` sees it (the low 32 bits, signed). -/
  ofWord32 (v : Int) : Int :=
    let r := v % Int.pow 2 32
    if r ≥ Int.pow 2 31 then r - Int.pow 2 32 else r

def standaloneAllows (flags : ByteStr) (hasPrec : Bool) (conv : Char) : Bool :=
  let base := "aAcdeEfFgGiosuxX".toList.contains conv
  let noQuote := (flags.contains '\x27' || flags.contains 'I') && "aAceEosxX".toList.contains conv
  let noAlt := flags.contains '#' && "cdisu".toList.contains conv
  let noZero := flags.contains '0' && "cs".toList.contains conv
  let noPrec := hasPrec && conv == 'c'
  base && !noQuote && !noAlt && !noZero && !noPrec

def convert (d : Dialect) (dir : Directive) (st : PrintfState) : PrintfState :=
  let s := dir.spec
  match dir.conv with
  | 's' =>
    let (a, st) := st.next
    let a := match s.prec with
      | some p => a.take p
      | none => a
    st.emit (padText s a)
  | 'c' =>
    let (a, st) := st.next
    st.emit (padText s [a.headD '\x00'])
  | 'b' =>
    let (a, st) := st.next
    let (t, stop, fatal) := escapeArg d a
    let t := match s.prec with
      | some p => t.take p
      | none => t
    let st := st.emit (padText s t)
    match fatal with
    | some m => st.fail d m
    | none => if stop then st.halt else st
  | 'q' =>
    let (a, st) := st.next
    st.emit (shellQuote a)
  | 'd' | 'i' =>
    let (a, st) := st.next
    let (v, c) := intArgument d true a
    (st.complain c).emit (formatSigned s v)
  | 'o' | 'u' | 'x' | 'X' =>
    let (a, st) := st.next
    let (v, c) := intArgument d false a
    let base := if dir.conv == 'o' then 8 else if dir.conv == 'u' then 10 else 16
    (st.complain c).emit (formatUnsigned s base (dir.conv == 'X') v.toNat)
  | conv =>
    let (a, st) := st.next
    let (v, c) := floatArgument d a
    let fmt := if d == .builtin then FloatFormat.double else FloatFormat.extended
    (st.complain c).emit (formatFloat fmt s conv v)

/-- Reads and applies one directive (`rest` starts after the `%`): answers the state and
the format left, or `none` for the format when the output stopped. -/
def directiveStep (d : Dialect) (rest : ByteStr) (st : PrintfState) : PrintfState × Option ByteStr :=
  let (spec, text, more, st, err) := readSpec d rest st
  match err with
  | some e => (st.fail d e, none)
  | none =>
    let mods := if d == .standalone then more.takeWhile "hlLjtzq".toList.contains else []
    let more := more.drop mods.length
    let flags := rest.takeWhile (if d == .builtin then "#-+ 0".toList else "#-+ 0'I".toList).contains
    match more with
    | [] =>
      if d == .builtin then (st.fail d "missing format character".toList, none)
      else (st.fail d ('%' :: text ++ mods ++ ": invalid conversion specification".toList), none)
    | conv :: after =>
      let whole := '%' :: text ++ mods ++ [conv]
      let ok := if d == .builtin then "bcsdiouxXeEfFgGaA".toList.contains conv
        else standaloneAllows flags spec.prec.isSome conv
      if !ok then
        (st.fail d (whole ++ (if d == .builtin then ": invalid directive"
          else ": invalid conversion specification").toList), none)
      else
        let st := convert d { spec, conv, text := whole } st
        if st.res.stopped then (st, none) else (st, some after)

def formatPass (d : Dialect) : Nat → ByteStr → PrintfState → PrintfState
  | 0, _, st => st
  | _ + 1, [], st => st
  | fuel + 1, c :: rest, st =>
    if c == '\\' then
      match readEscape d false rest with
      | .bytes b more => formatPass d fuel more (st.emit b)
      | .stop => st.halt
      | .fatal m => st.fail d m
    else if c != '%' then formatPass d fuel rest (st.emit [c])
    else match rest with
      | '%' :: more => formatPass d fuel more (st.emit ['%'])
      | 'b' :: more =>
        if d == .standalone then
          -- the program's `%b` and `%q` take no flags
          let st' := if st.args.isEmpty then st
            else convert d { spec := {}, conv := 'b', text := ['%', 'b'] } st
          if st'.res.stopped then st' else formatPass d fuel more st'
        else
          match directiveStep d rest st with
          | (st, some after) => formatPass d fuel after st
          | (st, none) => st
      | 'q' :: more =>
        if d == .standalone then
          let st' := if st.args.isEmpty then st
            else convert d { spec := {}, conv := 'q', text := ['%', 'q'] } st
          formatPass d fuel more st'
        else
          match directiveStep d rest st with
          | (st, some after) => formatPass d fuel after st
          | (st, none) => st
      | _ =>
        match directiveStep d rest st with
        | (st, some after) => formatPass d fuel after st
        | (st, none) => st

/-- Runs a format over the arguments: a pass, then more passes while arguments are left and
the last pass used some. Answers the result and the arguments never used. -/
def runFormat (d : Dialect) (fmt : ByteStr) (args : List ByteStr) : Printed × List ByteStr :=
  go (args.length + 1) { args }
where
  go : Nat → PrintfState → Printed × List ByteStr
    | 0, st => (st.res, st.args)
    | n + 1, st =>
      let st := formatPass d (fmt.length + 1) fmt { st with used := false }
      if st.res.stopped || st.args.isEmpty || !st.used then (st.res, st.args)
      else go n st

/-- The shell's built-in `printf` with its arguments: an option other than `--` is an error,
and a format is required. -/
def builtinPrintf (args : List ByteStr) : Printed :=
  match args with
  | ['-', '-'] :: rest => withFormat rest
  | ('-' :: c :: _) :: _ => { diags := ["Illegal option -".toList ++ [c]], status := 2 }
  | _ => withFormat args
where
  withFormat : List ByteStr → Printed
    | [] => { diags := ["usage: printf format [arg ...]".toList], status := 2 }
    | fmt :: rest => (runFormat .builtin fmt rest).1

/-- The shell's built-in `echo`: a first argument `-n` drops the final newline; every
argument's escapes are read, and `\c` ends all output. -/
def builtinEcho (args : List ByteStr) : ByteStr :=
  let (newline, words) := match args with
    | ['-', 'n'] :: rest => (false, rest)
    | _ => (true, args)
  go words.length words [] newline
where
  go : Nat → List ByteStr → ByteStr → Bool → ByteStr
    | 0, _, acc, nl => acc ++ (if nl then ['\n'] else [])
    | _ + 1, [], acc, nl => acc ++ (if nl then ['\n'] else [])
    | n + 1, w :: rest, acc, nl =>
      let (t, stop, _) := escapeArg .builtin w
      if stop then acc ++ t
      else go n rest (acc ++ t ++ (if rest.isEmpty then [] else [' '])) nl

def isEchoOptions (arg : ByteStr) : Bool :=
  match arg with
  | '-' :: rest => !rest.isEmpty && rest.all fun c => c == 'n' || c == 'e' || c == 'E'
  | _ => false

/-- The escapes of the standalone `echo -e`: like `%b`, but `\x` without a digit and
unknown escapes stay as written. Answers the bytes and whether `\c` stopped the output. -/
def echoEscapes (s : ByteStr) : ByteStr × Bool :=
  go (s.length + 1) s []
where
  go : Nat → ByteStr → ByteStr → ByteStr × Bool
    | 0, _, acc => (acc.reverse, false)
    | _ + 1, [], acc => (acc.reverse, false)
    | fuel + 1, c :: rest, acc =>
      if c != '\\' then go fuel rest (c :: acc)
      else match rest with
        | 'x' :: more =>
          let (v, n, after) := hexDigits 2 more
          if n == 0 then go fuel more ('x' :: '\\' :: acc) else go fuel after (byte v :: acc)
        | 'c' :: _ => (acc.reverse, true)
        | d :: more =>
          if isOctal d then
            let (v, after) := if d == '0' then octalDigits 3 more else octalDigits 3 rest
            go fuel after (byte v :: acc)
          else match simpleEscape? d with
            | some e => go fuel more (e :: acc)
            | none => go fuel more (d :: '\\' :: acc)
        | [] => (('\\' :: acc).reverse, false)

/-- The standalone `echo` (without `--help` and `--version`): leading option clusters, then
the words separated by spaces. -/
def standaloneEcho (args : List ByteStr) : ByteStr :=
  let opts := args.takeWhile isEchoOptions
  let words := args.drop opts.length
  let flags := opts.flatMap (·.drop 1)
  let escapes := flags.foldl (fun e c => if c == 'e' then true else if c == 'E' then false else e) false
  let newline := !flags.contains 'n'
  let joined := ByteStr.intercalate [' '] words
  let (text, stopped) := if escapes then echoEscapes joined else (joined, false)
  text ++ (if newline && !stopped then ['\n'] else [])

end PluginLens.Command
