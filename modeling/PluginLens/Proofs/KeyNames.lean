import PluginLens.Syntax.Value
import Mathlib.Data.Nat.Digits.Defs
import Mathlib.Data.List.TakeWhile
import Mathlib.Data.List.Forall2

/-!
# Number keys name their value

A number written as a property key names the property its value prints as, so `0x10`, `0o20`,
`0b1_0000` and `16` all name the property `16`. `IntegerLiteral` states what an integer literal
is, apart from the reader: decimal digits with no leading zero, or a radix prefix and digits of
that radix, with single `_` separators between digits. Main statement: every such key whose
value is below `2^53` names that value in decimal, and a prefixed literal too large for 64 bits
names itself (`keyName_integerLiteral`).

The argument has three steps. Reading the literal gives the value of its digits
(`keyValue?_integerLiteral`); a whole number below `2^53` is a double as it is, its highest bit
moved to the top of the significand (`roundRational_double_small`); and that double reads back
as the whole number and prints as it (`keyText_roundRational`).
-/

namespace PluginLens.Decimal

/-! ## Whole numbers round exactly -/

theorem bitLength_eq {n : Nat} (h : n ≠ 0) : bitLength n = n.log2 + 1 := by
  simp [bitLength, h]

theorem bitLength_le_of_lt {m k : Nat} (h : m < 2 ^ k) : bitLength m ≤ k := by
  by_cases hm : m = 0
  · simp [bitLength, hm]
  · rw [bitLength_eq hm]
    exact (Nat.log2_lt hm).2 h

theorem roundHalfEven_one (x : Nat) : roundHalfEven x 1 = x := by
  simp [roundHalfEven, Nat.mod_one]

theorem significand_lt {n : Nat} (hL : n.log2 < 53) :
    n * 2 ^ (52 - n.log2) < 2 ^ 53 := by
  have hhi : n < 2 ^ (n.log2 + 1) := Nat.lt_log2_self
  calc n * 2 ^ (52 - n.log2) < 2 ^ (n.log2 + 1) * 2 ^ (52 - n.log2) :=
        Nat.mul_lt_mul_of_pos_right hhi (Nat.two_pow_pos _)
    _ = 2 ^ 53 := by rw [← Nat.pow_add]; congr 1; omega

/-- A whole number `n` below `2^53` is a double as it is: its highest bit is moved to bit 52 of
the significand, with the exponent taking the shift back. -/
theorem roundRational_double_small {n : Nat} (hpos : 0 < n) (hlt : n < 2 ^ 53) (neg : Bool) :
    (roundRational .double neg n 1).1 =
      .finite neg (n * 2 ^ (52 - n.log2)) ((n.log2 : Int) - 52) := by
  have hn : n ≠ 0 := Nat.pos_iff_ne_zero.1 hpos
  have hlo : 2 ^ n.log2 ≤ n := Nat.log2_self_le hn
  have hL : n.log2 < 53 := (Nat.log2_lt hn).2 hlt
  have hk : ((bitLength n : Int) - (bitLength 1 : Int)) = (n.log2 : Int) := by
    have h1 : Nat.log2 1 < 1 := (Nat.log2_lt one_ne_zero).2 (by decide)
    simp only [bitLength_eq hn, bitLength_eq one_ne_zero]
    omega
  have hlg : (if n * pow2 (-(n.log2 : Int)) ≥ 1 * pow2 (n.log2 : Int) then (n.log2 : Int)
      else n.log2 - 1) = n.log2 := by
    simp [pow2, hlo]
  have he : max ((n.log2 : Int) - ((53 - 1 : Nat) : Int)) (-1074) = (n.log2 : Int) - 52 := by
    omega
  have hpair : (if (n.log2 : Int) - 52 ≥ 0 then (n, 1 * pow2 ((n.log2 : Int) - 52))
      else (n * pow2 (-((n.log2 : Int) - 52)), 1)) = (n * 2 ^ (52 - n.log2), 1) := by
    by_cases h52 : n.log2 = 52
    · simp [h52, pow2]
    · have hneg : ¬((n.log2 : Int) - 52 ≥ 0) := by omega
      have hexp : (-((n.log2 : Int) - 52)).toNat = 52 - n.log2 := by omega
      simp only [hneg, if_false, pow2, hexp, Nat.pow_eq]
  have hm := significand_lt hL
  have hbits := bitLength_le_of_lt hm
  unfold roundRational
  simp only [FloatFormat.double, beq_iff_eq, hn, if_false]
  rw [hk, hlg]
  simp only [he, hpair, roundHalfEven_one, Nat.pow_eq, Nat.ne_of_lt hm, if_false]
  have hov : ¬((bitLength (n * 2 ^ (52 - n.log2)) : Int) + ((n.log2 : Int) - 52) > 1024) := by
    omega
  simp only [hov, if_false]

theorem integer?_scaled (n k : Nat) :
    (BinFloat.finite false (n * 2 ^ k) (-(k : Int))).integer? = some (n : Int) := by
  by_cases hk : k = 0
  · simp [BinFloat.integer?, hk]
  · have hpos : 0 < 2 ^ k := Nat.two_pow_pos k
    simp [BinFloat.integer?, hk, Nat.mul_mod_left, Nat.mul_div_cancel _ hpos]

theorem integer?_roundRational {n : Nat} (hn : n < 2 ^ 53) :
    (roundRational .double false n 1).1.integer? = some (n : Int) := by
  by_cases h0 : n = 0
  · simp [roundRational, BinFloat.integer?, h0]
  · have hL : n.log2 < 53 := (Nat.log2_lt h0).2 hn
    have hexp : (n.log2 : Int) - 52 = -((52 - n.log2 : Nat) : Int) := by omega
    rw [roundRational_double_small (Nat.pos_of_ne_zero h0) hn, hexp]
    exact integer?_scaled n _

/-! ## Reading decimal digits -/

theorem digitCount_le_of_lt {d k : Nat} (hk : 0 < k) (hd : d < 10 ^ k) : digitCount d ≤ k := by
  rw [digitCount, Nat.toString_eq_ofList_toDigits, String.length_ofList]
  exact (Nat.length_toDigits_le_iff (by decide) hk).2 hd

theorem ofDecimal_whole (fmt : FloatFormat) (neg : Bool) {d : Nat}
    (hcount : digitCount d ≤ 5000) : ofDecimal fmt neg d 0 = roundRational fmt neg d 1 := by
  by_cases h0 : d = 0
  · simp [ofDecimal, roundRational, h0]
  · have hbelow : ¬((digitCount d : Int) < -5000) := by omega
    simp [ofDecimal, h0, Nat.not_lt.2 hcount, hbelow]

theorem foldl_radix (b : Nat) (ds : List Nat) (a : Nat) :
    ds.foldl (fun n d => b * n + d) a = a * b ^ ds.length + Nat.ofDigits b ds.reverse := by
  induction ds generalizing a with
  | nil => simp
  | cons d ds ih =>
    rw [List.foldl_cons, ih, List.reverse_cons, Nat.ofDigits_append, List.length_reverse,
      Nat.ofDigits_singleton, List.length_cons, Nat.pow_succ]
    ring

theorem digitsValue_eq {cs : List Char} {ds : List Nat}
    (h : List.Forall₂ (fun c d => c.toNat - '0'.toNat = d) cs ds) :
    digitsValue cs = Nat.ofDigits 10 ds.reverse := by
  have hfold : ∀ a, cs.foldl (fun n c => 10 * n + (c.toNat - '0'.toNat)) a =
      ds.foldl (fun n d => 10 * n + d) a := by
    induction h with
    | nil => intro a; rfl
    | cons hcd _ ih => intro a; simp only [List.foldl_cons, hcd, ih]
  rw [digitsValue, hfold, foldl_radix]
  simp

theorem toLower_of_isDigit {c : Char} (h : c.isDigit) : c.toLower = c := by
  have hle : c.val ≤ '9'.val := by simp [Char.isDigit] at h; exact h.2
  unfold Char.toLower
  rw [dif_neg]
  rintro ⟨hA, -⟩
  have h1 : c.val.toNat ≤ 57 := UInt32.le_iff_toNat_le.1 hle
  have h2 : 65 ≤ c.val.toNat := UInt32.le_iff_toNat_le.1 hA
  omega

/-- Digits alone are read as the whole number they spell. -/
theorem readDouble?_digits {cs : List Char} (hne : cs ≠ []) (hdig : ∀ c ∈ cs, c.isDigit) :
    readDouble? (String.ofList cs) = some (ofDecimal .double false (digitsValue cs) 0).1 := by
  obtain ⟨c, r, rfl⟩ := List.exists_cons_of_ne_nil hne
  have hc := hdig c (by simp)
  have hnotc : ∀ x, x.isDigit = false → x ≠ c := by rintro x hx rfl; simp [hc] at hx
  have hword : ∀ w : String, w.toList.head? ≠ some c →
      (String.ofList ((c :: r).map Char.toLower) == w) = false := by
    intro w hw
    rw [beq_eq_false_iff_ne]
    rintro rfl
    simp [toLower_of_isDigit hc] at hw
  have htake : (c :: r).takeWhile Char.isDigit = c :: r := List.takeWhile_eq_self_iff.2 hdig
  have hdrop : (c :: r).dropWhile Char.isDigit = [] := List.dropWhile_eq_nil_iff.2 hdig
  have hunsigned : readUnsigned? false (c :: r) =
      some (ofDecimal .double false (digitsValue (c :: r)) 0).1 := by
    unfold readUnsigned?
    dsimp only
    rw [hword "inf" (by simpa using hnotc 'i' (by decide)),
      hword "infinity" (by simpa using hnotc 'i' (by decide)),
      hword "nan" (by simpa using hnotc 'n' (by decide))]
    simp [htake, hdrop]
  rw [readDouble?, String.toList_ofList]
  split
  · rename_i heq; cases heq; simp at hc
  · rename_i heq; cases heq; simp at hc
  · exact hunsigned

end PluginLens.Decimal

namespace PluginLens.Syntax

open PluginLens.Text PluginLens.Decimal

theorem keyText_roundRational {n : Nat} (hn : n < 2 ^ 53) :
    keyText (roundRational .double false n 1).1 = toString n := by
  have hsmall : (n : Int).natAbs < Nat.pow 10 21 := Nat.lt_of_lt_of_le hn (by decide)
  simp only [keyText, integer?_roundRational hn, hsmall, if_true]
  rfl

/-! ## Integer literals -/

/-- The digits `0`–`9`, `a`–`f` and `A`–`F`, each with its value. -/
def digitTable : List (Char × Nat) :=
  "0123456789".toList.zipIdx ++ "abcdef".toList.zipIdx 10 ++ "ABCDEF".toList.zipIdx 10

/-- The radix prefixes of integer literals, in either case, after a leading `0`. -/
def radixPrefixes : List (Char × Nat) :=
  [('x', 16), ('X', 16), ('o', 8), ('O', 8), ('b', 2), ('B', 2)]

/-- `SeparatedDigits radix cs ds`: `cs` spells the digits `ds` of base `radix`, most significant
first, with single `_` separators between digits. -/
inductive SeparatedDigits (radix : Nat) : List Char → List Nat → Prop
  | single {c d} (hc : (c, d) ∈ digitTable) (hd : d < radix) : SeparatedDigits radix [c] [d]
  | digit {c d cs ds} (hc : (c, d) ∈ digitTable) (hd : d < radix)
      (rest : SeparatedDigits radix cs ds) : SeparatedDigits radix (c :: cs) (d :: ds)
  | separator {c d cs ds} (hc : (c, d) ∈ digitTable) (hd : d < radix)
      (rest : SeparatedDigits radix cs ds) : SeparatedDigits radix (c :: '_' :: cs) (d :: ds)

/-- `IntegerLiteral prefixed text v`: `text` is an integer literal of value `v`, written with
a radix prefix when `prefixed`. Decimal digits have no leading zero unless the literal is `0`. -/
inductive IntegerLiteral : Bool → String → Nat → Prop
  | decimal {cs ds} (digits : SeparatedDigits 10 cs ds) (lead : ds = [0] ∨ ds.head? ≠ some 0) :
      IntegerLiteral false (String.ofList cs) (Nat.ofDigits 10 ds.reverse)
  | radix {p radix cs ds} (hp : (p, radix) ∈ radixPrefixes)
      (digits : SeparatedDigits radix cs ds) :
      IntegerLiteral true (String.ofList ('0' :: p :: cs)) (Nat.ofDigits radix ds.reverse)

theorem digitTable_hexValue? : ∀ p ∈ digitTable, hexValue? p.1.toLower = some p.2 := by
  decide

theorem digitTable_ne_underscore : ∀ p ∈ digitTable, p.1 ≠ '_' := by
  decide

theorem digitTable_decimal : ∀ p ∈ digitTable, p.2 < 10 →
    p.1.toLower.isDigit ∧ p.1.toLower.toNat - '0'.toNat = p.2 := by
  decide

namespace SeparatedDigits

variable {radix : Nat} {cs : List Char} {ds : List Nat}

theorem ne_nil (h : SeparatedDigits radix cs ds) : ds ≠ [] := by
  cases h <;> simp

theorem filter (h : SeparatedDigits radix cs ds) :
    List.Forall₂ (fun c d => (c, d) ∈ digitTable ∧ d < radix) (cs.filter (· != '_')) ds := by
  induction h with
  | single hc hd => simpa [digitTable_ne_underscore _ hc] using ⟨hc, hd⟩
  | digit hc hd _ ih => simpa [digitTable_ne_underscore _ hc] using ⟨⟨hc, hd⟩, ih⟩
  | separator hc hd _ ih => simpa [digitTable_ne_underscore _ hc] using ⟨⟨hc, hd⟩, ih⟩

theorem lower (h : SeparatedDigits radix cs ds) :
    List.Forall₂ (fun c d => hexValue? c = some d ∧ d < radix)
      ((cs.filter (· != '_')).map Char.toLower) ds :=
  List.forall₂_map_left_iff.2
    (h.filter.imp fun _ _ ⟨hc, hd⟩ => ⟨digitTable_hexValue? _ hc, hd⟩)

theorem lower_decimal (h : SeparatedDigits 10 cs ds) :
    List.Forall₂ (fun c d => c.isDigit ∧ c.toNat - '0'.toNat = d)
      ((cs.filter (· != '_')).map Char.toLower) ds :=
  List.forall₂_map_left_iff.2 (h.filter.imp fun _ _ ⟨hc, hd⟩ => digitTable_decimal _ hc hd)

end SeparatedDigits

theorem foldlM_hexDigits {radix : Nat} {cs : List Char} {ds : List Nat}
    (h : List.Forall₂ (fun c d => hexValue? c = some d ∧ d < radix) cs ds) (a : Nat) :
    cs.foldlM (fun n c => (hexValue? c).bind fun d =>
        if d < radix then some (radix * n + d) else none) a =
      some (ds.foldl (fun n d => radix * n + d) a) := by
  induction h generalizing a with
  | nil => rfl
  | cons hcd _ ih =>
    obtain ⟨hc, hd⟩ := hcd
    simp [List.foldlM_cons, hc, hd, ih]

/-- A nonempty run of digits of a radix is read as the number they spell in it. -/
theorem radixValue?_hexDigits {radix : Nat} {cs : List Char} {ds : List Nat}
    (h : List.Forall₂ (fun c d => hexValue? c = some d ∧ d < radix) cs ds) (hne : ds ≠ []) :
    radixValue? radix cs = some (Nat.ofDigits radix ds.reverse) := by
  cases h with
  | nil => exact absurd rfl hne
  | @cons c d cs ds hcd hrest =>
    have hplus : c ≠ '+' := by
      rintro rfl
      simp [hexValue?] at hcd
    have hfold := foldlM_hexDigits (List.Forall₂.cons hcd hrest) 0
    rw [foldl_radix] at hfold
    simp only [radixValue?]
    split
    · rename_i r heq
      simp at heq
      exact absurd heq.1 hplus
    · simpa using hfold

theorem keyValue?_radix {p : Char} {radix : Nat} {cs : List Char} {ds : List Nat}
    (hp : (p, radix) ∈ radixPrefixes) (h : SeparatedDigits radix cs ds) :
    keyValue? (String.ofList ('0' :: p :: cs)) =
      if Nat.ofDigits radix ds.reverse < 2 ^ 64 then
        some (roundRational .double false (Nat.ofDigits radix ds.reverse) 1).1
      else none := by
  have hval := radixValue?_hexDigits h.lower h.ne_nil
  simp only [radixPrefixes, List.mem_cons, Prod.mk.injEq, List.not_mem_nil, or_false] at hp
  rcases hp with ⟨rfl, rfl⟩ | ⟨rfl, rfl⟩ | ⟨rfl, rfl⟩ | ⟨rfl, rfl⟩ | ⟨rfl, rfl⟩ |
      ⟨rfl, rfl⟩ <;>
    simp [keyValue?, hval, Nat.pow_eq]

/-- Decimal digits carry no radix prefix and are read as a decimal. -/
theorem keyValue?_decimal {cs : List Char} {ds : List Nat} (h : SeparatedDigits 10 cs ds)
    (hv : digitCount (Nat.ofDigits 10 ds.reverse) ≤ 5000) :
    keyValue? (String.ofList cs) =
      some (roundRational .double false (Nat.ofDigits 10 ds.reverse) 1).1 := by
  obtain ⟨hdig, hvals⟩ := (List.forall₂_and_left _ _).1 h.lower_decimal
  have hne : (cs.filter (· != '_')).map Char.toLower ≠ [] := by
    intro hnil
    rw [hnil] at hvals
    exact h.ne_nil (List.forall₂_nil_left_iff.1 hvals)
  have hread := readDouble?_digits hne hdig
  rw [digitsValue_eq hvals, ofDecimal_whole _ _ hv] at hread
  unfold keyValue?
  simp only [String.toList_ofList]
  generalize (cs.filter (· != '_')).map Char.toLower = lower at hdig hread
  split
  · rename_i radix digits heq
    split at heq
    · exact absurd (hdig 'x' (by simp)) (by decide)
    · exact absurd (hdig 'o' (by simp)) (by decide)
    · exact absurd (hdig 'b' (by simp)) (by decide)
    · cases heq
  · exact hread

theorem keyValue?_integerLiteral {prefixed : Bool} {raw : String} {v : Nat}
    (h : IntegerLiteral prefixed raw v) (hv : v < 2 ^ 64) :
    keyValue? raw = some (roundRational .double false v 1).1 := by
  have hcount : digitCount v ≤ 20 :=
    digitCount_le_of_lt (by decide) (Nat.lt_trans hv (by decide : 2 ^ 64 < 10 ^ 20))
  cases h with
  | decimal digits _ => exact keyValue?_decimal digits (by omega)
  | radix hp digits => rw [keyValue?_radix hp digits, if_pos hv]

theorem numericKey_integerLiteral {prefixed : Bool} {raw : String} {v : Nat}
    (h : IntegerLiteral prefixed raw v) (hv : v < 2 ^ 53) : numericKey raw = toString v := by
  rw [numericKey, keyValue?_integerLiteral h (Nat.lt_trans hv (by decide)), Option.map_some,
    Option.getD_some, keyText_roundRational hv]

example : numericKey "0X1_0" = "16" ∧ numericKey "0o20" = "16" ∧ numericKey "1_6" = "16" := by
  decide +kernel

theorem numericKey_radixOverflow {raw : String} {v : Nat} (h : IntegerLiteral true raw v)
    (hv : 2 ^ 64 ≤ v) : numericKey raw = raw := by
  cases h with
  | radix hp digits =>
    rw [numericKey, keyValue?_radix hp digits, if_neg (Nat.not_lt.2 hv)]
    rfl

/-- A number key written as an integer literal names the property spelled by its value in
decimal, whatever its radix, case and separators, once the value is below `2^53`: keys of one
value name one property. A prefixed literal too large for 64 bits names itself. -/
theorem keyName_integerLiteral {src : Source} {key : Node} {prefixed : Bool} {v : Nat}
    (hkind : key.kind = "number")
    (hlit : IntegerLiteral prefixed (src.slice key.start key.stop) v) :
    (v < 2 ^ 53 → keyName src key = some (toString v)) ∧
      (prefixed = true → 2 ^ 64 ≤ v →
        keyName src key = some (src.slice key.start key.stop)) := by
  have hname : keyName src key = some (numericKey (src.slice key.start key.stop)) := by
    simp [keyName, hkind]
  refine ⟨fun hv => ?_, fun hp hv => ?_⟩
  · rw [hname, numericKey_integerLiteral hlit hv]
  · subst hp
    rw [hname, numericKey_radixOverflow hlit hv]

/-- The key `0b1_0000` names the property `16`. -/
theorem keyName_binaryKey :
    let src := Source.ofString "0b1_0000"
    let key := Node.mk "number" true false none 0 8 []
    (key.kind = "number" ∧ IntegerLiteral true (src.slice key.start key.stop) 16 ∧
        16 < 2 ^ 53) ∧
      keyName src key = some "16" := by
  intro src key
  have hslice : src.slice key.start key.stop =
      String.ofList ['0', 'b', '1', '_', '0', '0', '0', '0'] := by
    decide +kernel
  have hdigits : SeparatedDigits 2 ['1', '_', '0', '0', '0', '0'] [1, 0, 0, 0, 0] :=
    .separator (by decide) (by decide) <| .digit (by decide) (by decide) <|
      .digit (by decide) (by decide) <| .digit (by decide) (by decide) <|
      .single (by decide) (by decide)
  have hlit : IntegerLiteral true (src.slice key.start key.stop) 16 := by
    rw [hslice]
    exact IntegerLiteral.radix (by decide) hdigits
  refine ⟨⟨rfl, hlit, by decide⟩, ?_⟩
  rw [(keyName_integerLiteral rfl hlit).1 (by decide)]
  rfl

end PluginLens.Syntax
