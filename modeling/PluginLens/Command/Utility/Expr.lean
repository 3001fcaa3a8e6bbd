import PluginLens.Command.Utility.Basic
import PluginLens.Command.Utility.Regex
import PluginLens.Command.Format

/-!
# expr

`expr` evaluates the expression its arguments spell, one token an argument, and prints the
value. From the loosest binding to the tightest:

* `a | b` is `a` unless it is null, else `b` (else `0`); `a & b` is `a` unless either is
  null, else `0`; the side that cannot matter is read but not evaluated;
* `<`, `<=`, `=` (or `==`), `!=`, `>=`, `>` compare as integers when both sides are, else as
  byte strings, and give `1` or `0`;
* `+` and `-`, then `*`, `/` and `%`, on integers of any size (division truncates);
* `s : re` matches a basic regular expression at the start of `s`: the text of its first
  group, or the number of bytes matched;
* `match s re`, `substr s pos len`, `index s chars`, `length s`, `+ token` (the token as a
  plain string), and parentheses.

A value is null when it is the empty string or a number that is zero (`0`, `-0`, `00`, …).
The exit status is 1 for a null value and 0 otherwise; 2 for a mistake in the expression or
its arithmetic, which is reported instead of a value.
-/

namespace PluginLens.Command

open ByteStr

/-- A value of `expr`: an integer or a string. -/
inductive ExprValue where
  | num (n : Int)
  | str (s : ByteStr)
  deriving Inhabited

namespace ExprValue

def text : ExprValue → ByteStr
  | num n => ofInt n
  | str s => s

def looksNumeric (s : ByteStr) : Bool :=
  let digits := match s with
    | '-' :: rest => rest
    | _ => s
  !digits.isEmpty && digits.all isDigit

def numberOf? (s : ByteStr) : Option Int :=
  if !looksNumeric s then none
  else match s with
    | '-' :: rest => some (-(rest.foldl (fun n c => 10 * n + (c.toNat - '0'.toNat)) 0 : Nat))
    | _ => some (s.foldl (fun n c => 10 * n + (c.toNat - '0'.toNat)) 0 : Nat)

def toInt? : ExprValue → Option Int
  | num n => some n
  | str s => numberOf? s

def isNull : ExprValue → Bool
  | num n => n == 0
  | str [] => true
  | str s =>
    let digits := match s with
      | '-' :: rest => rest
      | _ => s
    !digits.isEmpty && digits.all (· == '0')

end ExprValue

/-- Where reading the arguments stands: those left, and the one read last (for messages). -/
structure ExprState where
  rest : List ByteStr
  last : ByteStr := []

abbrev ExprM := StateT ExprState (Except ByteStr)

def nextIs (word : String) : ExprM Bool := do
  let st ← get
  match st.rest with
  | a :: more =>
    if a == word.toList then
      set { rest := more, last := a : ExprState }
      return true
    else return false
  | [] => return false

def takeArg : ExprM ByteStr := do
  let st ← get
  match st.rest with
  | a :: more =>
    set { rest := more, last := a : ExprState }
    return a
  | [] => throw ("syntax error: missing argument after ".toList ++ quoteArg st.last)

def needArg : ExprM Unit := do
  let st ← get
  if st.rest.isEmpty then
    throw ("syntax error: missing argument after ".toList ++ quoteArg st.last)

/-- `s : re`: the first group's text (empty when it did not match) for a pattern with groups,
else the number of bytes matched (0 for no match). -/
def colonMatch (s re : ExprValue) : Except ByteStr ExprValue := do
  let p ← (readPattern re.text).mapError String.toList
  match p.matchStart s.text with
  | some (len, caps) =>
    if p.groups > 0 then
      match caps.find? (·.1 == 1) with
      | some (_, a, b) => pure (.str ((s.text.drop a).take (b - a)))
      | none => pure (.str [])
    else pure (.num len)
  | none => pure (if p.groups > 0 then .str [] else .num 0)

def sizeLimit : Nat := Nat.pow 2 64 - 1

def asSize (n : Int) : Nat := if n < 0 then sizeLimit else min n.toNat sizeLimit

def substrOf (s : ByteStr) (pos len : Int) : ByteStr :=
  let pos := asSize pos
  let len := asSize len
  if s.length < pos || pos == 0 || len == 0 || len == sizeLimit then []
  else (s.drop (pos - 1)).take (min len (s.length - pos + 1))

def indexOf (s chars : ByteStr) : Nat :=
  match s.findIdx? (chars.contains ·) with
  | some i => i + 1
  | none => 0

/-- Compares two values for a comparison operator: as integers when both look like ones,
else byte by byte. -/
def compareValues (op : String) (l r : ExprValue) : Bool :=
  let o : Ordering :=
    match ExprValue.numberOf? l.text, ExprValue.numberOf? r.text with
    | some a, some b => compare a b
    | _, _ => compare (l.text.map Char.toNat) (r.text.map Char.toNat)
  match op with
  | "<" => o == .lt
  | "<=" => o != .gt
  | "=" | "==" => o == .eq
  | "!=" => o != .eq
  | ">=" => o != .lt
  | _ => o == .gt

def nextOf (ops : List String) : ExprM (Option String) := do
  for op in ops do
    if (← nextIs op) then return some op
  return none

/-- Evaluates an expression at binding level `level` (0 the loosest, 7 an operand);
`evaluate` is false on a side whose value cannot matter, which is read but not computed. -/
def evalLevel : Nat → Nat → Bool → ExprM ExprValue
  | 0, _, _ => throw "expression too deeply nested".toList
  | fuel + 1, level, evaluate => do
    let count := (← get).rest.length
    match level with
    | 0 =>
      let mut l ← evalLevel fuel 1 evaluate
      for _ in List.range count do
        if !(← nextIs "|") then break
        let r ← evalLevel fuel 1 (evaluate && l.isNull)
        if l.isNull then
          l := if r.isNull then .num 0 else r
      return l
    | 1 =>
      let mut l ← evalLevel fuel 2 evaluate
      for _ in List.range count do
        if !(← nextIs "&") then break
        let r ← evalLevel fuel 2 (evaluate && !l.isNull)
        if l.isNull || r.isNull then
          l := .num 0
      return l
    | 2 =>
      let mut l ← evalLevel fuel 3 evaluate
      for _ in List.range count do
        match ← nextOf ["<", "<=", "=", "==", "!=", ">=", ">"] with
        | none => break
        | some op =>
          let r ← evalLevel fuel 3 evaluate
          l := .num (if evaluate && compareValues op l r then 1 else 0)
      return l
    | 3 | 4 =>
      let ops := if level == 3 then ["+", "-"] else ["*", "/", "%"]
      let mut l ← evalLevel fuel (level + 1) evaluate
      for _ in List.range count do
        match ← nextOf ops with
        | none => break
        | some op =>
          let r ← evalLevel fuel (level + 1) evaluate
          if evaluate then
            match l.toInt?, r.toInt? with
            | some a, some b =>
              if (op == "/" || op == "%") && b == 0 then throw "division by zero".toList
              l := .num (match op with
                | "+" => a + b
                | "-" => a - b
                | "*" => a * b
                | "/" => a.tdiv b
                | _ => a.tmod b)
            | _, _ => throw "non-integer argument".toList
      return l
    | 5 =>
      let mut l ← evalLevel fuel 6 evaluate
      for _ in List.range count do
        if !(← nextIs ":") then break
        let r ← evalLevel fuel 6 evaluate
        if evaluate then
          l ← orFail (colonMatch l r)
      return l
    | 6 =>
      if (← nextIs "+") then
        needArg
        return .str (← takeArg)
      else if (← nextIs "length") then
        let r ← evalLevel fuel 6 evaluate
        return .num r.text.length
      else if (← nextIs "match") then
        let l ← evalLevel fuel 6 evaluate
        let r ← evalLevel fuel 6 evaluate
        if evaluate then orFail (colonMatch l r) else return l
      else if (← nextIs "index") then
        let l ← evalLevel fuel 6 evaluate
        let r ← evalLevel fuel 6 evaluate
        return .num (indexOf l.text r.text)
      else if (← nextIs "substr") then
        let l ← evalLevel fuel 6 evaluate
        let p ← evalLevel fuel 6 evaluate
        let n ← evalLevel fuel 6 evaluate
        match p.toInt?, n.toInt? with
        | some p, some n => return .str (substrOf l.text p n)
        | _, _ => return .str []
      else evalLevel fuel 7 evaluate
    | _ =>
      needArg
      if (← nextIs "(") then
        let v ← evalLevel fuel 0 evaluate
        let st ← get
        match st.rest with
        | [] => throw ("syntax error: expecting ')' after ".toList ++ quoteArg st.last)
        | a :: _ =>
          if !(← nextIs ")") then
            throw ("syntax error: expecting ')' instead of ".toList ++ quoteArg a)
          return v
      if (← nextIs ")") then throw "syntax error: unexpected ')'".toList
      return .str (← takeArg)
where
  orFail (e : Except ByteStr ExprValue) : ExprM ExprValue :=
    match e with
    | .ok v => pure v
    | .error m => throw m

def evalExpr (args : List ByteStr) : Except ByteStr ExprValue :=
  match (evalLevel (8 * (args.length + 2)) 0 true).run { rest := args } with
  | .ok (v, st) =>
    match st.rest with
    | [] => .ok v
    | a :: _ => .error ("syntax error: unexpected argument ".toList ++ quoteArg a)
  | .error m => .error m

def isLongOption (arg : ByteStr) (name : String) : Bool :=
  match arg with
  | '-' :: '-' :: rest => !rest.isEmpty && name.toList.take rest.length == rest
  | _ => false

def runExpr (inv : Invocation) : Finished :=
  match inv.args with
  | [a] =>
    if isLongOption a "help" then
      ({} : Finished).out "Usage: expr EXPRESSION\n  or:  expr OPTION\n".toList
    else if isLongOption a "version" then
      ({} : Finished).out (versionText "expr")
    else run inv.args
  | args => run args
where
  run (args : List ByteStr) : Finished :=
    let args := match args with
      | ['-', '-'] :: rest => rest
      | _ => args
    if args.isEmpty then usageFailure "expr" "missing operand".toList 2
    else match evalExpr args with
      | .ok v => ({} : Finished).out (v.text ++ ['\n']) |>.exit (if v.isNull then 1 else 0)
      | .error m => ({} : Finished).err (utilityMessage "expr" m) |>.exit 2

end PluginLens.Command
