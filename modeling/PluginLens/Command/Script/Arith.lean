import PluginLens.Command.ByteStr

/-!
# Shell arithmetic

The language of `$((…))`: signed 64-bit integers (wrapping on overflow), decimal, octal
(`010`) and hexadecimal (`0x1f`) literals, variables (an unset or empty variable is 0, any
other value must be a number), the operators of C without `++`, `--` and `,` — unary
`+ - ! ~`, binary `* / % + - << >> < <= > >= == != & ^ |`, `&&`, `||`, `?:` — and the
assignments `= *= /= %= += -= <<= >>= &= ^= |=`.

The expression is read and computed in one pass. Branches that are not taken (the right of
a decided `&&` or `||`, the other arm of `?:`) are read without being computed, so they
neither divide by zero nor assign. Errors name the whole expression:
`arithmetic expression: expecting primary: "1+"`. Shift counts are taken modulo 64, as the
machine does.
-/

namespace PluginLens.Command

open ByteStr

/-- The binary operators, each with its precedence (lower binds tighter). -/
inductive BinOp where
  | mul | div | rem | add | sub | shl | shr | lt | le | gt | ge | eq | ne | band | bxor | bor
  deriving Inhabited, BEq, Repr

def BinOp.prec : BinOp → Nat
  | .mul | .div | .rem => 0
  | .add | .sub => 1
  | .shl | .shr => 2
  | .lt | .le | .gt | .ge => 3
  | .eq | .ne => 4
  | .band => 5
  | .bxor => 6
  | .bor => 7

/-- The tokens of an arithmetic expression. -/
inductive ATok where
  | num (v : Int)
  | var (name : ByteStr)
  | bin (op : BinOp)
  | assign (op : Option BinOp)
  | andAnd
  | orOr
  | not
  | bnot
  | lparen
  | rparen
  | qmark
  | colon
  | eof
  | bad
  deriving Inhabited, BEq, Repr

def wrap64 (i : Int) : Int :=
  let m : Int := Int.pow 2 64
  let r := i % m
  if r ≥ Int.pow 2 63 then r - m else r

def toWord (i : Int) : UInt64 := UInt64.ofNat (i % Int.pow 2 64).toNat

def ofWord (w : UInt64) : Int := wrap64 w.toNat

def intMax : Int := Int.pow 2 63 - 1

/-- Reads the digits of an unsigned number the way `strtoimax` with base 0 does: `0x` for
hexadecimal, a leading `0` for octal, otherwise decimal. Answers the value, unbounded, and
the bytes after it (`none` when no digit starts it). -/
def readMagnitude? (cs : ByteStr) : Option (Nat × ByteStr) :=
  match cs with
  | '0' :: x :: rest =>
    if (x == 'x' || x == 'X') && (rest.head?.bind hexValue?).isSome then
      let ds := rest.takeWhile fun c => (hexValue? c).isSome
      some (digitsIn 16 ds, rest.drop ds.length)
    else
      let ds := (x :: rest).takeWhile isOctal
      some (digitsIn 8 ds, (x :: rest).drop ds.length)
  | c :: _ =>
    if isDigit c then
      let ds := cs.takeWhile isDigit
      some (digitsIn 10 ds, cs.drop ds.length)
    else none
  | [] => none
where
  digitsIn (base : Nat) (ds : ByteStr) : Nat :=
    ds.foldl (fun n c => base * n + ((hexValue? c).getD 0)) 0

/-- Reads a number the way `strtoimax` with base 0 does: leading white space, a sign, and
the digits. Answers the value (held to the 64-bit range), the bytes after it, and whether
it was out of range; `none` when no number starts there. -/
def readSigned? (cs : ByteStr) : Option (Int × ByteStr × Bool) :=
  let cs := cs.dropWhile isSpace
  let (neg, cs) := match cs with
    | '-' :: rest => (true, rest)
    | '+' :: rest => (false, rest)
    | _ => (false, cs)
  match readMagnitude? cs with
  | some (m, rest) =>
    if neg then
      if m > Nat.pow 2 63 then some (-intMax - 1, rest, true) else some (-(m : Int), rest, false)
    else if m > intMax.toNat then some (intMax, rest, true) else some ((m : Int), rest, false)
  | none => none

def arithTokens : Nat → ByteStr → List ATok → List ATok
  | 0, _, acc => (ATok.eof :: acc).reverse
  | fuel + 1, cs, acc =>
    match cs with
    | [] => (ATok.eof :: acc).reverse
    | c :: rest =>
      if c == ' ' || c == '\t' || c == '\n' then arithTokens fuel rest acc
      else if isDigit c then
        match readMagnitude? cs with
        | some (v, more) => arithTokens fuel more (.num (min (v : Int) intMax) :: acc)
        | none => arithTokens fuel rest (.bad :: acc)
      else if isNameStart c then
        let name := c :: rest.takeWhile isNameChar
        arithTokens fuel (cs.drop name.length) (.var name :: acc)
      else
        let withEq (t : ATok) (op : BinOp) : ATok × ByteStr :=
          match rest with
          | '=' :: more => (.assign (some op), more)
          | _ => (t, rest)
        let (t, more) : ATok × ByteStr := match c, rest with
          | '=', '=' :: m => (.bin .eq, m)
          | '=', _ => (.assign none, rest)
          | '>', '=' :: m => (.bin .ge, m)
          | '>', '>' :: '=' :: m => (.assign (some .shr), m)
          | '>', '>' :: m => (.bin .shr, m)
          | '>', _ => (.bin .gt, rest)
          | '<', '=' :: m => (.bin .le, m)
          | '<', '<' :: '=' :: m => (.assign (some .shl), m)
          | '<', '<' :: m => (.bin .shl, m)
          | '<', _ => (.bin .lt, rest)
          | '|', '|' :: m => (.orOr, m)
          | '|', _ => withEq (.bin .bor) .bor
          | '&', '&' :: m => (.andAnd, m)
          | '&', _ => withEq (.bin .band) .band
          | '!', '=' :: m => (.bin .ne, m)
          | '!', _ => (.not, rest)
          | '(', _ => (.lparen, rest)
          | ')', _ => (.rparen, rest)
          | '*', _ => withEq (.bin .mul) .mul
          | '/', _ => withEq (.bin .div) .div
          | '%', _ => withEq (.bin .rem) .rem
          | '+', _ => withEq (.bin .add) .add
          | '-', _ => withEq (.bin .sub) .sub
          | '^', _ => withEq (.bin .bxor) .bxor
          | '~', _ => (.bnot, rest)
          | '?', _ => (.qmark, rest)
          | ':', _ => (.colon, rest)
          | _, _ => (.bad, rest)
        if t == .bad then (ATok.bad :: acc).reverse
        else arithTokens fuel more (t :: acc)

/-- Why an expression failed: a message about the expression, or a variable whose value is
not a number. -/
inductive ArithError where
  | malformed (msg : String)
  | illegalNumber (value : ByteStr)
  deriving Inhabited, Repr

/-- The computation state: tokens left (the first is the lookahead), the variables' values
and the assignments made (latest first). -/
structure ArithState where
  toks : List ATok
  lookup : ByteStr → Option ByteStr
  assigned : List (ByteStr × Int) := []

abbrev ArithM := StateT ArithState (Except ArithError)

/-- The value of a variable as a number: unset or empty is 0; otherwise a number with
optional blanks around it. -/
def varValue (name : ByteStr) : ArithM Int := do
  let st ← get
  match st.assigned.lookup name with
  | some v => pure v
  | none =>
    let text := (st.lookup name).getD []
    match readSigned? text with
    | some (v, rest, big) =>
      if !big && (rest.dropWhile isSpace).isEmpty then pure v else throw (.illegalNumber text)
    | none =>
      if text.isEmpty then pure 0 else throw (.illegalNumber text)

def peekTok : ArithM ATok := do pure ((← get).toks.headD .eof)

def dropTok : ArithM Unit := modify fun st => { st with toks := st.toks.drop 1 }

def binValue (op : BinOp) (a b : Int) : ArithM Int :=
  let bool (p : Bool) : Int := if p then 1 else 0
  match op with
  | .div | .rem =>
    if b == 0 then throw (.malformed "division by zero")
    else pure (wrap64 (if op == .div then a.tdiv b else a.tmod b))
  | .mul => pure (wrap64 (a * b))
  | .add => pure (wrap64 (a + b))
  | .sub => pure (wrap64 (a - b))
  | .shl => pure (wrap64 (a * Int.pow 2 (b % 64).toNat))
  | .shr => pure (a / Int.pow 2 (b % 64).toNat)
  | .lt => pure (bool (a < b))
  | .le => pure (bool (a ≤ b))
  | .gt => pure (bool (a > b))
  | .ge => pure (bool (a ≥ b))
  | .eq => pure (bool (a == b))
  | .ne => pure (bool (a != b))
  | .band => pure (ofWord (toWord a &&& toWord b))
  | .bxor => pure (ofWord (toWord a ^^^ toWord b))
  | .bor => pure (ofWord (toWord a ||| toWord b))

mutual

def assignment : Nat → Bool → ArithM Int
  | 0, _ => throw (.malformed "expecting primary")
  | fuel + 1, noeval => do
    match (← get).toks with
    | .var name :: .assign op :: rest =>
      modify fun st => { st with toks := rest }
      let r ← assignment fuel noeval
      if noeval then return r
      let v ← match op with
        | some o => do binValue o (← varValue name) r
        | none => pure r
      modify fun st => { st with assigned := (name, v) :: st.assigned }
      pure v
    | _ => condExpr fuel noeval

def condExpr : Nat → Bool → ArithM Int
  | 0, _ => throw (.malformed "expecting primary")
  | fuel + 1, noeval => do
    let a ← orExpr fuel noeval
    if (← peekTok) != .qmark then return a
    dropTok
    let b ← assignment fuel (noeval || a == 0)
    if (← peekTok) != .colon then throw (.malformed "expecting ':'")
    dropTok
    let c ← condExpr fuel (noeval || a != 0)
    pure (if a != 0 then b else c)

def orExpr : Nat → Bool → ArithM Int
  | 0, _ => throw (.malformed "expecting primary")
  | fuel + 1, noeval => do
    let a ← andExpr fuel noeval
    if (← peekTok) != .orOr then return a
    dropTok
    let b ← orExpr fuel (noeval || a != 0)
    pure (if a != 0 || b != 0 then 1 else 0)

def andExpr : Nat → Bool → ArithM Int
  | 0, _ => throw (.malformed "expecting primary")
  | fuel + 1, noeval => do
    let a ← binExpr fuel noeval
    if (← peekTok) != .andAnd then return a
    dropTok
    let b ← andExpr fuel (noeval || a == 0)
    pure (if a != 0 && b != 0 then 1 else 0)

def binExpr : Nat → Bool → ArithM Int
  | 0, _ => throw (.malformed "expecting primary")
  | fuel + 1, noeval => do
    let a ← primary fuel noeval
    match (← peekTok) with
    | .bin op => binChain fuel a op 8 noeval
    | _ => pure a

/-- Applies `op` to `a` and what follows, gathering operators that bind tighter than
`op` first; stops before an operator binding no tighter than `prec`. -/
def binChain : Nat → Int → BinOp → Nat → Bool → ArithM Int
  | 0, _, _, _, _ => throw (.malformed "expecting primary")
  | fuel + 1, a, op, prec, noeval => do
    dropTok
    let b ← primary fuel noeval
    let (b, op2) ← match (← peekTok) with
      | .bin op2 =>
        if op2.prec < op.prec then do
          let b ← binChain fuel b op2 op.prec noeval
          pure (b, ← peekTok)
        else pure (b, ATok.bin op2)
      | t => pure (b, t)
    let a ← if noeval then pure b else binValue op a b
    match op2 with
    | .bin op2 => if op2.prec ≥ prec then pure a else binChain fuel a op2 prec noeval
    | _ => pure a

/-- A number, a variable, a parenthesised expression, or a unary operator applied to a
primary. -/
def primary : Nat → Bool → ArithM Int
  | 0, _ => throw (.malformed "expecting primary")
  | fuel + 1, noeval => do
    match ← peekTok with
    | .lparen =>
      dropTok
      let r ← assignment fuel noeval
      if (← peekTok) != .rparen then throw (.malformed "expecting ')'")
      dropTok
      pure r
    | .num v =>
      dropTok
      pure v
    | .var name =>
      dropTok
      if noeval then pure 0 else varValue name
    | .bin .add =>
      dropTok
      primary fuel noeval
    | .bin .sub =>
      dropTok
      pure (wrap64 (-(← primary fuel noeval)))
    | .not =>
      dropTok
      pure (if (← primary fuel noeval) == 0 then 1 else 0)
    | .bnot =>
      dropTok
      pure (-(← primary fuel noeval) - 1)
    | _ => throw (.malformed "expecting primary")

end

/-- Computes an expression with these variable values: answers the value and the
assignments made, in order. -/
def evalArith (lookup : ByteStr → Option ByteStr) (text : ByteStr) :
    Except ArithError (Int × List (ByteStr × Int)) :=
  let toks := arithTokens (text.length + 1) text []
  let fuel := 4 * toks.length + 8
  match (assignment fuel false).run { toks, lookup } with
  | .ok (v, st) =>
    if st.toks.headD .eof != .eof then .error (.malformed "expecting EOF")
    else .ok (v, st.assigned.reverse)
  | .error e => .error e

end PluginLens.Command
