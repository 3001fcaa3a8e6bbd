import PluginLens.Decimal.Shortest

/-!
# Reading decimal text as a double

`readDouble?` accepts an optional sign, then `inf`, `infinity` or `nan` in any case, or
digits with an optional point (at least one digit on some side of it) and an optional
exponent `e±digits`. The value is the double nearest to the decimal, ties to even
(`ofDecimal`), computed exactly.
-/

namespace PluginLens.Decimal

def digitsValue (cs : List Char) : Nat :=
  cs.foldl (fun n c => 10 * n + (c.toNat - '0'.toNat)) 0

/-- Reads the unsigned part of a decimal: digits, point, exponent; `neg` is its sign. -/
def readUnsigned? (neg : Bool) (cs : List Char) : Option BinFloat :=
  let lower := String.ofList (cs.map Char.toLower)
  if lower == "inf" || lower == "infinity" then some (.inf neg)
  else if lower == "nan" then some (.nan neg)
  else
    let whole := cs.takeWhile Char.isDigit
    let rest := cs.dropWhile Char.isDigit
    let (frac, rest) :=
      match rest with
      | '.' :: r => (r.takeWhile Char.isDigit, r.dropWhile Char.isDigit)
      | _ => ([], rest)
    let pointOk := whole.length + frac.length > 0
    let expo : Option Int :=
      match rest with
      | [] => some 0
      | e :: r =>
        if e == 'e' || e == 'E' then
          let (neg, ds) := match r with
            | '-' :: d => (true, d)
            | '+' :: d => (false, d)
            | d => (false, d)
          if ds.isEmpty || !ds.all Char.isDigit then none
          else
            let v : Int := digitsValue ds
            some (if neg then -v else v)
        else none
    match expo with
    | some x =>
      if pointOk then
        some (ofDecimal .double neg (digitsValue (whole ++ frac)) (x - frac.length)).1
      else none
    | none => none

/-- Reads decimal text as the nearest double, if it is one. -/
def readDouble? (s : String) : Option BinFloat :=
  match s.toList with
  | '-' :: r => readUnsigned? true r
  | '+' :: r => readUnsigned? false r
  | cs => readUnsigned? false cs

end PluginLens.Decimal
