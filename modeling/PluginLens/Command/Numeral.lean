import PluginLens.Command.ByteStr
import PluginLens.Decimal.Rounding

/-!
# Numbers for `printf`

`printf` reads its numeric arguments the way the C library does — `strtoimax` and
`strtoumax` for integers, `strtod` (double) or `strtold` (the 80-bit extended format) for
floating point — and prints them with the conversions of C: `%d`, `%o`, `%x`, `%f`, `%e`,
`%g`, `%a` with their flags, width and precision.

Floating-point values are kept exactly (`Decimal.BinFloat`), and every decimal conversion is
computed with whole numbers: a decimal text is rounded to the nearest value of the format
(ties to even), and a value is printed by rounding it exactly to the digits asked for (ties
to even again), as the C library does.
-/

namespace PluginLens.Command

open ByteStr PluginLens.Decimal

def startsNoCase (s : ByteStr) (p : String) : Bool :=
  (s.take p.length).map Char.toLower == p.toList

/-- Reads an optionally signed exponent: its value (held to a large bound) and the rest;
`none` when no digit follows the sign. -/
def readExponent? (cs : ByteStr) : Option (Int × ByteStr) :=
  let (neg, rest) := match cs with
    | '-' :: r => (true, r)
    | '+' :: r => (false, r)
    | _ => (false, cs)
  let ds := rest.takeWhile isDigit
  if ds.isEmpty then none
  else
    let v : Nat := ds.foldl (fun n c => min (10 * n + (c.toNat - '0'.toNat)) 1000000000) 0
    some (if neg then -(v : Int) else v, rest.drop ds.length)

/-- Reads a floating-point number the way `strtod` does, rounded to a format: leading white
space, a sign, then `inf`/`infinity`, `nan` (with an optional `(…)`), a hexadecimal
`0x…p…` or a decimal number with an optional exponent. Answers the value, the rest and
whether it was out of range; `none` when no number starts there. -/
def readFloat? (fmt : FloatFormat) (cs : ByteStr) : Option (BinFloat × ByteStr × Bool) :=
  let cs := cs.dropWhile isSpace
  let (neg, cs) := match cs with
    | '-' :: rest => (true, rest)
    | '+' :: rest => (false, rest)
    | _ => (false, cs)
  if startsNoCase cs "infinity" then some (.inf neg, cs.drop 8, false)
  else if startsNoCase cs "inf" then some (.inf neg, cs.drop 3, false)
  else if startsNoCase cs "nan" then
    let rest := cs.drop 3
    let rest := match rest with
      | '(' :: more =>
        let inside := more.takeWhile fun c => isAlpha c || isDigit c || c == '_'
        match more.drop inside.length with
        | ')' :: after => after
        | _ => rest
      | _ => rest
    some (.nan neg, rest, false)
  else
    match hexForm? cs with
    | some (h, p, rest) =>
      let (v, big) := ofBinary fmt neg h p
      some (v, rest, big)
    | none =>
      let intDs := cs.takeWhile isDigit
      let afterInt := cs.drop intDs.length
      let (fracDs, afterFrac) := match afterInt with
        | '.' :: more =>
          let f := more.takeWhile isDigit
          (f, more.drop f.length)
        | _ => ([], afterInt)
      let hasDot := afterInt.head? == some '.'
      if intDs.isEmpty && fracDs.isEmpty then none
      else
        let afterNum := if hasDot then afterFrac else afterInt
        let (exp, rest) := match afterNum with
          | e :: more =>
            if e == 'e' || e == 'E' then
              match readExponent? more with
              | some (x, r) => (x, r)
              | none => (0, afterNum)
            else (0, afterNum)
          | [] => (0, afterNum)
        let ds := intDs ++ fracDs
        let d := ds.foldl (fun n c => 10 * n + (c.toNat - '0'.toNat)) 0
        let (v, big) := ofDecimal fmt neg d (exp - fracDs.length)
        some (v, rest, big)
where
  /-- A hexadecimal mantissa `0x…[.…]` with an optional binary exponent `p…`. -/
  hexForm? (cs : ByteStr) : Option (Nat × Int × ByteStr) :=
    match cs with
    | '0' :: x :: rest =>
      if x == 'x' || x == 'X' then
        let isHex := fun c => (hexValue? c).isSome
        let intDs := rest.takeWhile isHex
        let afterInt := rest.drop intDs.length
        let (fracDs, afterFrac) := match afterInt with
          | '.' :: more =>
            let f := more.takeWhile isHex
            (f, more.drop f.length)
          | _ => ([], afterInt)
        if intDs.isEmpty && fracDs.isEmpty then none
        else
          let afterNum := if afterInt.head? == some '.' then afterFrac else afterInt
          let (exp, rest) := match afterNum with
            | p :: more =>
              if p == 'p' || p == 'P' then
                match readExponent? more with
                | some (x, r) => (x, r)
                | none => (0, afterNum)
              else (0, afterNum)
            | [] => (0, afterNum)
          let h := (intDs ++ fracDs).foldl (fun n c => 16 * n + (hexValue? c).getD 0) 0
          some (h, exp - 4 * fracDs.length, rest)
      else none
    | _ => none

/-- The flags, width and precision of a conversion. -/
structure Spec where
  left : Bool := false
  plus : Bool := false
  space : Bool := false
  alt : Bool := false
  zero : Bool := false
  width : Nat := 0
  prec : Option Nat := none
  deriving Inhabited, Repr

def padding (n : Nat) (c : Char) : ByteStr := List.replicate n c

/-- Places a sign (or prefix) and digits in a field: on the left with `-`, padded with zeros
between them with `0`, padded with spaces otherwise. -/
def placeField (s : Spec) (zeroOk : Bool) (pre body : ByteStr) : ByteStr :=
  let len := pre.length + body.length
  if s.left then pre ++ body ++ padding (s.width - len) ' '
  else if s.zero && zeroOk then pre ++ padding (s.width - len) '0' ++ body
  else padding (s.width - len) ' ' ++ pre ++ body

def padText (s : Spec) (t : ByteStr) : ByteStr :=
  if s.left then t ++ padding (s.width - t.length) ' '
  else padding (s.width - t.length) ' ' ++ t

/-- The digits of a number in a base, at least `prec` of them (none for zero with
precision 0). -/
def digitsIn (base : Nat) (upper : Bool) (n : Nat) (prec : Option Nat) : ByteStr :=
  let ds := if n == 0 then ['0'] else (Nat.toDigits base n).map fun c => if upper then c.toUpper else c
  match prec with
  | some 0 => if n == 0 then [] else ds
  | some p => padding (p - ds.length) '0' ++ ds
  | none => ds

def signOf (s : Spec) (neg : Bool) : ByteStr :=
  if neg then ['-'] else if s.plus then ['+'] else if s.space then [' '] else []

def formatSigned (s : Spec) (v : Int) : ByteStr :=
  placeField s s.prec.isNone (signOf s (v < 0)) (digitsIn 10 false v.natAbs s.prec)

def formatUnsigned (s : Spec) (base : Nat) (upper : Bool) (v : Nat) : ByteStr :=
  let ds := digitsIn base upper v s.prec
  let (pre, ds) :=
    if s.alt && base == 16 && v != 0 then ((if upper then "0X" else "0x").toList, ds)
    else if s.alt && base == 8 && ds.head? != some '0' then ([], '0' :: ds)
    else ([], ds)
  placeField s s.prec.isNone pre ds

def rationalOf (m : Nat) (e : Int) : Nat × Nat :=
  if e ≥ 0 then (m * pow2 e, 1) else (m, pow2 (-e))

def fixedScaled (m : Nat) (e : Int) (p : Nat) : Nat :=
  let (n, d) := rationalOf m e
  roundHalfEven (n * Nat.pow 10 p) d

/-- Writes a whole number of `p`-place units as digits with a point: `314, 2 → 3.14`; the
point stays with `#` even when no place follows. -/
def withPoint (v : Nat) (p : Nat) (alt : Bool) : ByteStr :=
  let ds := (toString v).toList
  let ds := padding (p + 1 - ds.length) '0' ++ ds
  let intPart := ds.take (ds.length - p)
  let frac := ds.drop (ds.length - p)
  if p == 0 then intPart ++ (if alt then ['.'] else []) else intPart ++ '.' :: frac

/-- The decimal exponent of a positive value and its digits rounded to `p + 1` significant
digits. -/
def scientificDigits (m : Nat) (e : Int) (p : Nat) : Nat × Int :=
  let (n, d) := rationalOf m e
  let a : Int := digitCount n
  let b : Int := digitCount d
  -- 10^(a-b-1) < n/d < 10^(a-b+1)
  let x0 := a - b
  let atLeast := if x0 ≥ 0 then n ≥ d * Nat.pow 10 x0.toNat else n * Nat.pow 10 (-x0).toNat ≥ d
  let x := if atLeast then x0 else x0 - 1
  let shift : Int := (p : Int) - x
  let digits := if shift ≥ 0 then roundHalfEven (n * Nat.pow 10 shift.toNat) d
    else roundHalfEven n (d * Nat.pow 10 (-shift).toNat)
  if digits == Nat.pow 10 (p + 1) then (Nat.pow 10 p, x + 1) else (digits, x)

def exponentText (upper : Bool) (x : Int) : ByteStr :=
  let ds := (toString x.natAbs).toList
  (if upper then 'E' else 'e') :: (if x < 0 then '-' else '+') :: (padding (2 - ds.length) '0' ++ ds)

def scientificBody (m : Nat) (e : Int) (p : Nat) (alt upper : Bool) : ByteStr :=
  if m == 0 then withPoint 0 p alt ++ exponentText upper 0
  else
    let (ds, x) := scientificDigits m e p
    withPoint ds p alt ++ exponentText upper x

def dropTrailingZeros (t : ByteStr) : ByteStr :=
  if t.contains '.' then
    let r := (t.reverse.dropWhile (· == '0'))
    (if r.head? == some '.' then r.drop 1 else r).reverse
  else t

/-- `%g` digits of a finite non-negative value: `%e` when the exponent is below -4 or not
below the precision, `%f` otherwise; trailing zeros dropped unless `#`. -/
def generalBody (m : Nat) (e : Int) (p : Nat) (alt upper : Bool) : ByteStr :=
  let p := if p == 0 then 1 else p
  let x := if m == 0 then 0 else (scientificDigits m e (p - 1)).2
  if x < -4 || x ≥ p then
    let body := if m == 0 then withPoint 0 (p - 1) alt
      else withPoint (scientificDigits m e (p - 1)).1 (p - 1) alt
    let body := if alt then body else dropTrailingZeros body
    body ++ exponentText upper x
  else
    let q := (p : Int) - 1 - x
    let body := withPoint (fixedScaled m e q.toNat) q.toNat alt
    if alt then body else dropTrailingZeros body

/-- `%a` digits of a finite non-negative value: the mantissa in hexadecimal with `lead`
bits before the point (1 for double, 4 for the extended format) and a binary exponent. A
double below the normal range shows a leading 0 and the smallest normal exponent. -/
def hexBody (fmt : FloatFormat) (m : Nat) (e : Int) (prec : Option Nat) (alt upper : Bool) :
    ByteStr :=
  let lead := if fmt.bits == 64 then 4 else 1
  let fracBits := fmt.bits - lead
  let nibbles := (fracBits + 3) / 4
  let (intDigit, frac, x) : Nat × Nat × Int :=
    if m == 0 then (0, 0, 0)
    else
      let top := m / Nat.pow 2 fracBits
      let frac := (m % Nat.pow 2 fracBits) * Nat.pow 2 (4 * nibbles - fracBits)
      (top, frac, e + fracBits)
  let (intDigit, fracText) : Nat × ByteStr :=
    match prec with
    | none =>
      let t := (padding nibbles '0' ++ (Nat.toDigits 16 frac)).reverse.take nibbles |>.reverse
      (intDigit, (t.reverse.dropWhile (· == '0')).reverse)
    | some p =>
      if p ≥ nibbles then
        let t := ((padding nibbles '0' ++ Nat.toDigits 16 frac).reverse.take nibbles).reverse
        (intDigit, t ++ padding (p - nibbles) '0')
      else
        let whole := intDigit * Nat.pow 16 nibbles + frac
        let r := roundHalfEven whole (Nat.pow 16 (nibbles - p))
        let i := r / Nat.pow 16 p
        let f := r % Nat.pow 16 p
        let t := ((padding p '0' ++ Nat.toDigits 16 f).reverse.take p).reverse
        (i, t)
  let up := fun (s : ByteStr) => if upper then s.map Char.toUpper else s
  let point := if fracText.isEmpty && !alt then [] else ['.']
  let intText := up (Nat.toDigits 16 intDigit)
  up ("0x".toList) ++ intText ++ point ++ up fracText ++
    (if upper then 'P' else 'p') :: ((if x < 0 then '-' else '+') :: (toString x.natAbs).toList)

def formatFloat (fmt : FloatFormat) (s : Spec) (conv : Char) (v : BinFloat) : ByteStr :=
  let upper := conv.isUpper
  match v with
  | .inf neg => placeField s false (signOf s neg) (if upper then "INF".toList else "inf".toList)
  | .nan neg => placeField s false (signOf s neg) (if upper then "NAN".toList else "nan".toList)
  | .finite neg m e =>
    let p := s.prec.getD 6
    let body := match conv.toLower with
      | 'f' => withPoint (fixedScaled m e p) p s.alt
      | 'e' => scientificBody m e p s.alt upper
      | 'g' => generalBody m e p s.alt upper
      | _ => hexBody fmt m e s.prec s.alt upper
    if conv.toLower == 'a' then
      -- the zero padding goes after the 0x prefix
      let pre := signOf s neg ++ body.take 2
      placeField s true pre (body.drop 2)
    else placeField s true (signOf s neg) body

end PluginLens.Command
