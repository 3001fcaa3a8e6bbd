/-!
# Binary floating-point values, kept exactly

A binary floating-point value is `(-1)^neg · m · 2^e`, an infinity, or not a number. Values are
kept exactly, as whole numbers, and every conversion into a format is computed with whole
numbers: a rational number is rounded to the nearest value of the format, ties to even, as
IEEE 754 asks of every conversion. Doubles and the 80-bit extended format of `long double` are
the formats used.
-/

namespace PluginLens.Decimal

/-- A binary floating-point value: `(-1)^neg · m · 2^e`, an infinity, or not a number. -/
inductive BinFloat where
  | finite (neg : Bool) (m : Nat) (e : Int)
  | inf (neg : Bool)
  | nan (neg : Bool)
  deriving Inhabited, Repr, BEq

/-- A binary floating-point format: bits of mantissa, the exponent of its smallest step
(below the normal range the step stays fixed), and the power of two that overflows. -/
structure FloatFormat where
  bits : Nat
  minExp : Int
  maxExp : Int
  deriving Inhabited, Repr

def FloatFormat.double : FloatFormat := { bits := 53, minExp := -1074, maxExp := 1024 }

def FloatFormat.extended : FloatFormat := { bits := 64, minExp := -16445, maxExp := 16384 }

def bitLength (n : Nat) : Nat := if n == 0 then 0 else n.log2 + 1

def digitCount (n : Nat) : Nat := (toString n).length

/-- `num / den` rounded to the nearest whole number, ties to even. -/
def roundHalfEven (num den : Nat) : Nat :=
  let q := num / den
  let r := num % den
  if 2 * r > den || (2 * r == den && q % 2 == 1) then q + 1 else q

def pow2 (k : Int) : Nat := Nat.pow 2 k.toNat

/-- The value `num / den` (both positive) rounded to a format; answers the value and whether
it was out of range (too large, or so small that it lost precision). -/
def roundRational (fmt : FloatFormat) (neg : Bool) (num den : Nat) : BinFloat × Bool :=
  if num == 0 then (.finite neg 0 0, false)
  else
    let k : Int := (bitLength num : Int) - bitLength den
    -- the exponent of the highest bit: k or k - 1
    let lg : Int := if num * pow2 (-k) ≥ den * pow2 k then k else k - 1
    let e := max (lg - (fmt.bits - 1 : Nat)) fmt.minExp
    let (n, d) := if e ≥ 0 then (num, den * pow2 e) else (num * pow2 (-e), den)
    let m := roundHalfEven n d
    let exact := m * d == n
    let (m, e) := if m == Nat.pow 2 fmt.bits then (Nat.pow 2 (fmt.bits - 1), e + 1) else (m, e)
    let tiny := lg < fmt.minExp + (fmt.bits - 1 : Nat)
    if (bitLength m : Int) + e > fmt.maxExp then (.inf neg, true)
    else (.finite neg m e, tiny && !exact)

/-- The value `D · 10^E` rounded to a format (huge exponents go straight to infinity or
zero). -/
def ofDecimal (fmt : FloatFormat) (neg : Bool) (d : Nat) (exp : Int) : BinFloat × Bool :=
  if d == 0 then (.finite neg 0 0, false)
  else
    let mag := exp + digitCount d
    if mag > 5000 then (.inf neg, true)
    else if mag < -5000 then (.finite neg 0 0, true)
    else if exp ≥ 0 then roundRational fmt neg (d * Nat.pow 10 exp.toNat) 1
    else roundRational fmt neg d (Nat.pow 10 (-exp).toNat)

/-- The value `H · 2^P` rounded to a format. -/
def ofBinary (fmt : FloatFormat) (neg : Bool) (h : Nat) (exp : Int) : BinFloat × Bool :=
  if h == 0 then (.finite neg 0 0, false)
  else
    let mag := exp + bitLength h
    if mag > 20000 then (.inf neg, true)
    else if mag < -20000 then (.finite neg 0 0, true)
    else if exp ≥ 0 then roundRational fmt neg (h * pow2 exp) 1
    else roundRational fmt neg h (pow2 (-exp))

/-- The whole number a value is, if it is one: zeros are `0`, infinities and not-a-number
are none. -/
def BinFloat.integer? : BinFloat → Option Int
  | .finite neg m e =>
    let magnitude : Option Nat :=
      if e ≥ 0 then some (m * Nat.pow 2 e.toNat)
      else if m % Nat.pow 2 e.natAbs == 0 then some (m / Nat.pow 2 e.natAbs) else none
    magnitude.map fun n => if neg then -(n : Int) else n
  | .inf _ | .nan _ => none

/-- The value as a runtime double, for a value in the form that rounding to the double format
gives, by its bits: sign, biased exponent (zero below the normal range) and fraction. -/
def BinFloat.toFloat : BinFloat → Float
  | .finite neg m e =>
    let field : Nat :=
      if m < Nat.pow 2 52 then m else (e + 1075).toNat * Nat.pow 2 52 + (m - Nat.pow 2 52)
    Float.ofBits (UInt64.ofNat ((if neg then Nat.pow 2 63 else 0) + field))
  | .inf neg => Float.ofBits (UInt64.ofNat ((if neg then Nat.pow 2 63 else 0) + 2047 * Nat.pow 2 52))
  | .nan _ => 0.0 / 0.0

end PluginLens.Decimal
