import PluginLens.Command.ByteStr
import PluginLens.Command.Script.Arith

/-!
# Conditions of `test` and `[`

The shell's `test` reads its arguments as an expression: `-o` joins alternatives, `-a`
conjunctions, `!` negates, parentheses group, and a primary is a unary test (`-f path`,
`-z text`, …), a binary comparison (`a = b`, `n -lt m`, …) or a single word, true when it
is not empty. An operator word counts as an operand where the grammar needs one: a unary
operator right before the last word or before a binary operator is itself a word.

Before the general grammar, a few argument counts are read as the standard prescribes: three
arguments with a binary operator in the middle are that comparison; three or four arguments
in parentheses are the inside; a leading `!` on three or four arguments negates the rest.

Numbers are decimal integers with optional blanks around them; anything else is an illegal
number. A word left over after the expression is an unexpected operator.
-/

namespace PluginLens.Command

open ByteStr

/-- The operators of `test`. -/
inductive TestOp where
  | unary (c : Char)
  | binary (text : String)
  | not
  | and
  | or
  | lparen
  | rparen
  deriving BEq, Inhabited, Repr

def testOp? (s : ByteStr) : Option TestOp :=
  match s with
  | ['-', c] =>
    if "rwxefdcbpugkstznhOGLS".toList.contains c then some (.unary c)
    else if c == 'a' then some .and
    else if c == 'o' then some .or
    else none
  | ['!'] => some .not
  | ['('] => some .lparen
  | [')'] => some .rparen
  | _ =>
    let t := String.ofList s
    if ["=", "!=", "<", ">", "-eq", "-ne", "-ge", "-gt", "-le", "-lt", "-nt", "-ot",
        "-ef"].contains t then some (.binary t)
    else none

def TestOp.isBinary : TestOp → Bool
  | .binary _ => true
  | _ => false

/-- A token of the expression: the end, a word, or an operator. -/
inductive TestTok where
  | eoi
  | operand
  | op (o : TestOp)
  deriving BEq, Inhabited

/-- Why a condition could not be read. -/
inductive TestError where
  | message (text : ByteStr)
  | illegalNumber (word : ByteStr)
  deriving Inhabited

def TestError.text : TestError → ByteStr
  | .message t => t
  | .illegalNumber w => "Illegal number: ".toList ++ w

/-- The state of reading an expression: the words, the current position and the operator
the last token was. -/
structure TestState where
  args : Array ByteStr
  pos : Nat := 0
  lastOp : Option TestOp := none

abbrev TestM := StateT TestState (Except TestError)

def TestState.word? (st : TestState) (i : Nat) : Option ByteStr := st.args[i]?

def testLex (i : Nat) : TestM TestTok := do
  let st ← get
  match st.word? i with
  | none =>
    set { st with lastOp := none }
    return .eoi
  | some s =>
    -- a unary operator before the last word, or before a binary operator, is a word
    let isOperand : Bool :=
      match st.word? (i + 1) with
      | none => true
      | some next =>
        match st.word? (i + 2) with
        | none => false
        | some _ => ((testOp? next).map TestOp.isBinary).getD false
    match testOp? s with
    | some o =>
      let asWord := (match o with
        | .unary _ => isOperand
        | _ => false) || (o == .lparen && (st.word? (i + 1)).isNone)
      if asWord then
        set { st with lastOp := none }
        return .operand
      else
        set { st with lastOp := some o }
        return .op o
    | none =>
      set { st with lastOp := none }
      return .operand

/-- A decimal integer with optional blanks before it and a sign: its value, the bytes after
its digits, and whether it lies outside the 64-bit range. -/
def readDecimal? (s : ByteStr) : Option (Int × ByteStr × Bool) :=
  let s := s.dropWhile isSpace
  let (neg, s) := match s with
    | '-' :: r => (true, r)
    | '+' :: r => (false, r)
    | _ => (false, s)
  let ds := s.takeWhile isDigit
  if ds.isEmpty then none
  else
    let v : Nat := ds.foldl (fun n c => 10 * n + (c.toNat - '0'.toNat)) 0
    let big := if neg then v > Nat.pow 2 63 else v ≥ Nat.pow 2 63
    some (if neg then -(v : Int) else v, s.drop ds.length, big)

def decimalValue? (s : ByteStr) : Option Int :=
  match readDecimal? s with
  | some (v, rest, big) => if big || !(rest.dropWhile isSpace).isEmpty then none else some v
  | none => none

def testNumber (s : ByteStr) : TestM Int :=
  match decimalValue? s with
  | some v => pure v
  | none => throw (.illegalNumber s)

def byteCompare (a b : ByteStr) : Ordering :=
  compare (a.map Char.toNat) (b.map Char.toNat)

def testBinary (op : String) (a b : ByteStr) : TestM Bool := do
  match op with
  | "=" => return a == b
  | "!=" => return a != b
  | "<" => return byteCompare a b == .lt
  | ">" => return byteCompare a b == .gt
  | "-nt" | "-ot" | "-ef" => return false
  | _ =>
    let x ← testNumber a
    let y ← testNumber b
    return match op with
      | "-eq" => x == y
      | "-ne" => x != y
      | "-ge" => x ≥ y
      | "-gt" => x > y
      | "-le" => x ≤ y
      | _ => x < y

def testSyntax {α : Type} (word : Option ByteStr) (msg : String) : TestM α :=
  match word with
  | some w => if w.isEmpty then throw (.message msg.toList) else throw (.message (w ++ ": ".toList ++ msg.toList))
  | none => throw (.message msg.toList)

def TestOp.text : TestOp → ByteStr
  | .unary c => ['-', c]
  | .binary t => t.toList
  | .not => ['!']
  | .and => "-a".toList
  | .or => "-o".toList
  | .lparen => ['(']
  | .rparen => [')']

mutual

def testOr (file : Char → ByteStr → Bool) : Nat → TestTok → TestM Bool
  | 0, _ => pure false
  | fuel + 1, n => do
    let r ← testAnd file fuel n
    let st ← get
    let next ← testLex (st.pos + 1)
    if next == .op .or then
      modify fun st => { st with pos := st.pos + 2 }
      let n ← testLex (← get).pos
      let rest ← testOr file fuel n
      return r || rest
    else return r

def testAnd (file : Char → ByteStr → Bool) : Nat → TestTok → TestM Bool
  | 0, _ => pure false
  | fuel + 1, n => do
    let r ← testNot file fuel n
    let st ← get
    let next ← testLex (st.pos + 1)
    if next == .op .and then
      modify fun st => { st with pos := st.pos + 2 }
      let n ← testLex (← get).pos
      let rest ← testAnd file fuel n
      return r && rest
    else return r

def testNot (file : Char → ByteStr → Bool) : Nat → TestTok → TestM Bool
  | 0, _ => pure false
  | fuel + 1, n => do
    if n == .op .not then
      modify fun st => { st with pos := st.pos + 1 }
      let n ← testLex (← get).pos
      return !(← testNot file fuel n)
    else testPrimary file fuel n

def testPrimary (file : Char → ByteStr → Bool) : Nat → TestTok → TestM Bool
  | 0, _ => pure false
  | fuel + 1, n => do
    if n == .eoi then return false
    if n == .op .lparen then
      modify fun st => { st with pos := st.pos + 1 }
      let nn ← testLex (← get).pos
      if nn == .op .rparen then return false
      let r ← testOr file fuel nn
      modify fun st => { st with pos := st.pos + 1 }
      if (← testLex (← get).pos) != .op .rparen then testSyntax none "closing paren expected"
      return r
    let st ← get
    match st.lastOp with
    | some (.unary c) =>
      set { st with pos := st.pos + 1 }
      match st.word? (st.pos + 1) with
      | none => testSyntax (some (TestOp.unary c).text) "argument expected"
      | some w =>
        match c with
        | 'z' => return w.isEmpty
        | 'n' => return !w.isEmpty
        | 't' =>
          let _ ← testNumber w
          return false
        | _ => return file c w
    | _ =>
      let _ ← testLex (st.pos + 1)
      match (← get).lastOp with
      | some (.binary op) =>
        let a := (st.word? st.pos).getD []
        modify fun st => { st with pos := st.pos + 2 }
        match (← get).word? (← get).pos with
        | none => testSyntax (some op.toList) "argument expected"
        | some b => testBinary op a b
      | _ => return !((st.word? st.pos).getD []).isEmpty

end

/-- Evaluates the arguments of `test` (without the command name or the closing `]`) with a
file predicate: answers whether the condition holds. -/
def evalTest (file : Char → ByteStr → Bool) (args : List ByteStr) : Except TestError Bool :=
  go 3 args true
where
  go : Nat → List ByteStr → Bool → Except TestError Bool
    | 0, _, _ => .ok false
    | fuel + 1, args, positive =>
      if args.isEmpty then .ok !positive else
      let arr := args.toArray
      let binaryMiddle := args.length == 3 &&
        ((args[1]?.bind testOp?).map TestOp.isBinary).getD false
      if binaryMiddle then run arr positive (some .operand)
      else if args.length == 3 || args.length == 4 then
        if args.head? == some ['('] && args.getLast? == some [')'] then
          run (args.drop 1).dropLast.toArray positive none
        else if args.head? == some ['!'] then go fuel (args.drop 1) false
        else run arr positive none
      else run arr positive none
  run (arr : Array ByteStr) (positive : Bool) (first : Option TestTok) : Except TestError Bool :=
    let body : TestM Bool := do
      let n ← match first with
        | some t => pure t
        | none => testLex 0
      let r ← testOr file (4 * arr.size + 8) n
      let st ← get
      match st.word? st.pos, st.word? (st.pos + 1) with
      | some w, some _ => testSyntax (some w) "unexpected operator"
      | _, _ => return r
    match body.run { args := arr } with
    | .ok (r, _) => .ok (if positive then r else !r)
    | .error e => .error e

end PluginLens.Command
