import PluginLens.Decimal.Rounding

/-!
# Shortest decimal digits of a double

A finite double is `m · 2^e`. The reals that round to it form an interval around it (its ends
belong to it exactly when `m` is even, since ties go to the even neighbour). `shortest` finds
the fewest significant decimal digits `d` and an exponent `k` with `d · 10^k` in that interval;
among the candidates with that many digits it takes the one nearest to the double, a tie
going to the even digit string. All arithmetic is exact, on natural numbers.

Two writings of the result are provided: `positional` never uses an exponent (the text of a
double in a property name), and `scientificText` switches to an exponent far from 1 (the text
of a double inside JSON).
-/

namespace PluginLens.Decimal

/-- A finite nonzero double as `m · 2^e`, with its sign. -/
structure Binary where
  negative : Bool
  mantissa : Nat
  exponent : Int
  deriving Repr

/-- The sign, significand and binary exponent of a finite double; `none` for zero, infinities
and NaN. -/
def Binary.ofFloat? (f : Float) : Option Binary :=
  let bits := f.toBits.toNat
  let negative := bits ≥ Nat.pow 2 63
  let biased : Nat := (bits / Nat.pow 2 52) % Nat.pow 2 11
  let frac : Nat := bits % Nat.pow 2 52
  if biased == 2047 then none
  else if biased == 0 then
    if frac == 0 then none else some ⟨negative, frac, -1074⟩
  else some ⟨negative, frac + Nat.pow 2 52, Int.ofNat biased - 1075⟩

/-- `x · 2^p · 10^q` as a natural number, after scaling by `2^P · 10^Q` so that both exponents
are natural. -/
def scaled (x : Nat) (p q : Int) (P Q : Nat) : Nat :=
  x * Nat.pow 2 (p + P).toNat * Nat.pow 10 (q + Q).toNat

/-- Compares `x · 2^p · 10^q` with `y · 2^r · 10^s` exactly. -/
def cmpScaled (x : Nat) (p q : Int) (y : Nat) (r s : Int) : Ordering :=
  let P := (max (max (-p) (-r)) 0).toNat
  let Q := (max (max (-q) (-s)) 0).toNat
  compare (scaled x p q P Q) (scaled y r s P Q)

/-- `⌊log₁₀ (m · 2^e)⌋` for `m > 0`. -/
def decimalExponent (m : Nat) (e : Int) : Int :=
  if e ≥ 0 then (digitCount (m * Nat.pow 2 e.toNat) : Int) - 1
  else
    let s := (-e).toNat
    (digitCount (m * Nat.pow 10 s / Nat.pow 2 s) : Int) - 1 - s

/-- `⌊m · 2^e / 10^k⌋`. -/
def floorDiv (m : Nat) (e k : Int) : Nat :=
  let P := (max (-e) 0).toNat
  let Q := (max k 0).toNat
  -- m · 2^e / 10^k = (m · 2^(e+P) · 10^(Q-k)) / (2^P · 10^Q)
  (m * Nat.pow 2 (e + P).toNat * Nat.pow 10 ((Q : Int) - k).toNat) / (Nat.pow 2 P * Nat.pow 10 Q)

/-- Whether `d · 10^k` rounds to the double `m · 2^e`. -/
def roundsTo (m : Nat) (e : Int) (d : Nat) (k : Int) : Bool :=
  let inclusive := m % 2 == 0
  -- the interval is [(2m - 1) · 2^(e-1), (2m + 1) · 2^(e-1)], narrower below a power of two
  let lowerCloser := m == Nat.pow 2 52 && e > -1074
  let below : Ordering :=
    if lowerCloser then cmpScaled (4 * m - 1) (e - 2) 0 d 0 k
    else cmpScaled (2 * m - 1) (e - 1) 0 d 0 k
  let above := cmpScaled d 0 k (2 * m + 1) (e - 1) 0
  let okBelow := below == .lt || (inclusive && below == .eq)
  let okAbove := above == .lt || (inclusive && above == .eq)
  okBelow && okAbove

/-- The candidate nearer to `m · 2^e` among `d` and `d + 1` (both scaled by `10^k`), the even
one on a tie. -/
def nearer (m : Nat) (e : Int) (d : Nat) (k : Int) : Nat :=
  -- distance of d·10^k below v versus (d+1)·10^k above v: compare 2v with (2d+1)·10^k
  match cmpScaled (2 * m) e 0 (2 * d + 1) 0 k with
  | .lt => d
  | .gt => d + 1
  | .eq => if d % 2 == 0 then d else d + 1

/-- Search over digit counts `n, n+1, …` up to 17 for the first that holds a candidate. -/
def search (m : Nat) (e E : Int) : Nat → Nat → Nat × Int
  | 0, _ => (m, e)
  | fuel + 1, n =>
    let k := E - (n : Int) + 1
    let d := floorDiv m e k
    let lo := roundsTo m e d k
    let hi := roundsTo m e (d + 1) k
    if lo && hi then (nearer m e d k, k)
    else if lo then (d, k)
    else if hi then (d + 1, k)
    else search m e E fuel (n + 1)

/-- Fewest significant digits `d` and exponent `k` with `d · 10^k` reading back as
`m · 2^e`, nearest first. -/
def shortest (m : Nat) (e : Int) : Nat × Int :=
  let (d, k) := search m e (decimalExponent m e) 17 1
  -- a carry (…9 + 1) can leave a trailing zero; move it into the exponent
  if d % 10 == 0 && d != 0 then (d / 10, k + 1) else (d, k)

/-- Digits `d · 10^k` written without exponent. -/
def positional (d : Nat) (k : Int) : String :=
  let ds := toString d
  if k ≥ 0 then ds ++ String.ofList (List.replicate k.toNat '0')
  else
    let places := (-k).toNat
    if ds.length > places then
      String.ofList (ds.toList.take (ds.length - places)) ++ "." ++
        String.ofList (ds.toList.drop (ds.length - places))
    else "0." ++ String.ofList (List.replicate (places - ds.length) '0') ++ ds

/-- A double as a value: its sign, significand and exponent when it is finite and nonzero
(`Binary.ofFloat?`), a zero of its sign, an infinity or not a number. -/
def BinFloat.ofFloat (f : Float) : BinFloat :=
  match Binary.ofFloat? f with
  | some b => .finite b.negative b.mantissa b.exponent
  | none =>
    if f.isNaN then .nan false
    else if f.isInf then .inf (f < 0)
    else .finite (f.toBits.toNat ≥ Nat.pow 2 63) 0 0

/-- A double written without exponent, as property names spell it: `inf` for infinity,
`NaN`, and `0` or `-0` for the zeros. The double is given in the form that rounding to the
double format gives (`roundRational`), the form `Binary.ofFloat?` reads off its bits. -/
def BinFloat.plainText : BinFloat → String
  | .finite neg m e =>
    if m == 0 then (if neg then "-0" else "0")
    else
      let (d, k) := shortest m e
      (if neg then "-" else "") ++ positional d k
  | .inf neg => if neg then "-inf" else "inf"
  | .nan _ => "NaN"

def plainText (f : Float) : String := (BinFloat.ofFloat f).plainText

/-- Digits `d · 10^k` written the way JSON output writes a double: positionally with a
fractional part while the point stays within 16 digits of the first, otherwise as
`d.ddde±x`. -/
def scientificText (d : Nat) (k : Int) : String :=
  let ds := toString d
  let n : Int := ds.length
  let point := n + k
  if 0 ≤ k && point ≤ 16 then
    ds ++ String.ofList (List.replicate k.toNat '0') ++ ".0"
  else if 0 < point && point ≤ 16 then
    String.ofList (ds.toList.take point.toNat) ++ "." ++ String.ofList (ds.toList.drop point.toNat)
  else if -5 < point && point ≤ 0 then
    "0." ++ String.ofList (List.replicate (-point).toNat '0') ++ ds
  else
    let mant :=
      if ds.length == 1 then ds
      else String.ofList (ds.toList.take 1) ++ "." ++ String.ofList (ds.toList.drop 1)
    mant ++ "e" ++ toString (point - 1)

/-- A double as JSON number text. Zero is `0.0`; infinities and NaN, which JSON cannot hold,
are written as `null`. -/
def jsonText (f : Float) : String :=
  match Binary.ofFloat? f with
  | some b =>
    let (d, k) := shortest b.mantissa b.exponent
    (if b.negative then "-" else "") ++ scientificText d k
  | none =>
    if f.isNaN || f.isInf then "null"
    else if f.toBits.toNat ≥ Nat.pow 2 63 then "-0.0" else "0.0"

end PluginLens.Decimal
