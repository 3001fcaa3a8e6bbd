import PluginLens.Proofs.KeyNames
import Mathlib.Data.Bool.AllAny

/-!
# The value of a string literal

A string key names a property by its string value: the characters between the quotes with
every escape read. ECMAScript defines that value (the SV of the literal) character by
character; `LiteralValue` is that definition, with the two escapes it leaves out here (a
legacy octal escape and a `\u` escape of a surrogate) giving no value at all.

`stringValue` does not read the literal characters itself. It joins the parts the grammar has
already cut: runs of plain characters and escape tokens, each escape read on its own by
`unescape`. `EscapeToken` and `StringPart` say which tokens the grammar makes.

`stringValue_literalValue` is the agreement: whenever the grammar cuts a literal into such
parts and the literal has a value, `stringValue` is that value and the key is named by it.
The one exception is a hypothesis of the theorem. The grammar reads a carriage return and a
line or paragraph separator after a backslash as one token, which `unescape` drops whole;
ECMAScript ends the line continuation at the carriage return and keeps the separator
(`separatorKey_name`). The proof reads one token at a time (`LiteralValue.escape`), and
`LiteralValue.functional` says a literal has one value at most, so the value a key should have
is fixed by any reading of it.
-/

namespace PluginLens.Syntax

open PluginLens.Text PluginLens.Decimal

/-- The escapes that stand for one control character: `\b`, `\f`, `\n`, `\r`, `\t`, `\v`. -/
def simpleEscapes : List (Char × Char) :=
  [('b', '\x08'), ('f', '\x0c'), ('n', '\n'), ('r', '\r'), ('t', '\t'), ('v', '\x0b')]

/-- The characters that end a line. -/
def lineTerminators : List Char := ['\n', '\r', '\u2028', '\u2029']

/-- The characters that do not stand for themselves after a backslash: the simple escapes, the
octal digits, `x`, `u`, and the line terminators. -/
def escapeCharacters : List Char :=
  ['b', 'f', 'n', 'r', 't', 'v', '0', '1', '2', '3', '4', '5', '6', '7', 'x', 'u'] ++ lineTerminators

/-- The octal digits. -/
def octalDigits : List Char := ['0', '1', '2', '3', '4', '5', '6', '7']

/-- A Unicode scalar value: a code point that is not a surrogate. -/
def IsScalar (n : Nat) : Prop := n ≤ 0x10FFFF ∧ ¬(0xD800 ≤ n ∧ n ≤ 0xDFFF)

/-- A run of hexadecimal digits closed by a brace: `HexRun cs ds rest` says `cs` is the digits
`ds`, then `}`, then `rest`. -/
inductive HexRun : List Char → List Nat → List Char → Prop
  | close {rest} : HexRun ('\x7d' :: rest) [] rest
  | digit {c d cs ds rest} (hc : (c, d) ∈ digitTable) (h : HexRun cs ds rest) :
      HexRun (c :: cs) (d :: ds) rest

/-- The string value (SV) ECMAScript gives to the characters between the quotes of a string
literal: `LiteralValue body v` says `body` has the value `v`. A legacy octal escape or an escape of a
surrogate code unit gives no value here. -/
inductive LiteralValue : List Char → List Char → Prop
  | nil : LiteralValue [] []
  | char {c rest v} (hc : c ≠ '\\') (hcr : c ≠ '\r') (hlf : c ≠ '\n') (h : LiteralValue rest v) :
      LiteralValue (c :: rest) (c :: v)
  | simple {e c rest v} (he : (e, c) ∈ simpleEscapes) (h : LiteralValue rest v) :
      LiteralValue ('\\' :: e :: rest) (c :: v)
  | zero {rest v} (hnd : ∀ d ∈ rest.head?, d.isDigit = false) (h : LiteralValue rest v) :
      LiteralValue ('\\' :: '0' :: rest) ('\x00' :: v)
  | lineFeed {rest v} (h : LiteralValue rest v) : LiteralValue ('\\' :: '\n' :: rest) v
  | carriageReturn {rest v} (hlf : rest.head? ≠ some '\n') (h : LiteralValue rest v) :
      LiteralValue ('\\' :: '\r' :: rest) v
  | crlf {rest v} (h : LiteralValue rest v) : LiteralValue ('\\' :: '\r' :: '\n' :: rest) v
  | lineSeparator {rest v} (h : LiteralValue rest v) : LiteralValue ('\\' :: '\u2028' :: rest) v
  | paragraphSeparator {rest v} (h : LiteralValue rest v) :
      LiteralValue ('\\' :: '\u2029' :: rest) v
  | hex {h₁ h₂ d₁ d₂ rest v} (hd₁ : (h₁, d₁) ∈ digitTable) (hd₂ : (h₂, d₂) ∈ digitTable)
      (h : LiteralValue rest v) :
      LiteralValue ('\\' :: 'x' :: h₁ :: h₂ :: rest) (Char.ofNat (16 * d₁ + d₂) :: v)
  | unicode {h₁ h₂ h₃ h₄ d₁ d₂ d₃ d₄ rest v} (hd₁ : (h₁, d₁) ∈ digitTable)
      (hd₂ : (h₂, d₂) ∈ digitTable) (hd₃ : (h₃, d₃) ∈ digitTable) (hd₄ : (h₄, d₄) ∈ digitTable)
      (hs : IsScalar (Nat.ofDigits 16 [d₄, d₃, d₂, d₁])) (h : LiteralValue rest v) :
      LiteralValue ('\\' :: 'u' :: h₁ :: h₂ :: h₃ :: h₄ :: rest)
        (Char.ofNat (Nat.ofDigits 16 [d₄, d₃, d₂, d₁]) :: v)
  | braced {cs ds rest v} (hrun : HexRun cs ds rest) (hne : ds ≠ [])
      (hs : IsScalar (Nat.ofDigits 16 ds.reverse)) (h : LiteralValue rest v) :
      LiteralValue ('\\' :: 'u' :: '\x7b' :: cs) (Char.ofNat (Nat.ofDigits 16 ds.reverse) :: v)
  | identity {c rest v} (hc : c ∉ escapeCharacters) (h : LiteralValue rest v) :
      LiteralValue ('\\' :: c :: rest) (c :: v)

/-- The escape tokens of the grammar (`escape_sequence` of tree-sitter-javascript 0.23), after
their backslash: one character other than `x`, `u` and an octal digit; one to three octal
digits; `x` and two hexadecimal digits; `u` and four; `u` and hexadecimal digits in braces; or
a carriage return or `?` followed by a line feed or a line or paragraph separator. -/
inductive EscapeToken : List Char → Prop
  | single {c} (hc : c ∉ 'x' :: 'u' :: octalDigits) : EscapeToken [c]
  | octal {ds} (hne : ds ≠ []) (hlen : ds.length ≤ 3) (hd : ∀ d ∈ ds, d ∈ octalDigits) :
      EscapeToken ds
  | hex {h₁ h₂ d₁ d₂} (hd₁ : (h₁, d₁) ∈ digitTable) (hd₂ : (h₂, d₂) ∈ digitTable) :
      EscapeToken ['x', h₁, h₂]
  | unicode {h₁ h₂ h₃ h₄ d₁ d₂ d₃ d₄} (hd₁ : (h₁, d₁) ∈ digitTable)
      (hd₂ : (h₂, d₂) ∈ digitTable) (hd₃ : (h₃, d₃) ∈ digitTable) (hd₄ : (h₄, d₄) ∈ digitTable) :
      EscapeToken ['u', h₁, h₂, h₃, h₄]
  | braced {cs ds} (hne : ds ≠ []) (hdigits : List.Forall₂ (fun c d => (c, d) ∈ digitTable) cs ds) :
      EscapeToken ('u' :: '\x7b' :: cs ++ ['\x7d'])
  | lineEnd {a b} (ha : a ∈ ['\r', '?']) (hb : b ∈ lineTerminators.erase '\r') : EscapeToken [a, b]

/-- A named child of a string literal as the grammar reads it: a fragment of characters other
than a backslash and the line ends that a literal may not hold, or an escape token. -/
inductive StringPart : String → List Char → Prop
  | fragment {cs} (hne : cs ≠ []) (hplain : ∀ c ∈ cs, c ≠ '\\' ∧ c ≠ '\r' ∧ c ≠ '\n') :
      StringPart "string_fragment" cs
  | escape {body} (h : EscapeToken body) : StringPart "escape_sequence" ('\\' :: body)

theorem digitTable_hexValue : ∀ p ∈ digitTable, hexValue? p.1 = some p.2 := by
  decide

theorem digitTable_unique {c : Char} {d d' : Nat} (h : (c, d) ∈ digitTable)
    (h' : (c, d') ∈ digitTable) : d = d' := by
  have hfun : ∀ p ∈ digitTable, ∀ q ∈ digitTable, p.1 = q.1 → p.2 = q.2 := by decide
  exact hfun _ h _ h' rfl

theorem digitTable_lt : ∀ p ∈ digitTable, p.2 < 16 := by
  decide

theorem unescape_simple : ∀ p ∈ simpleEscapes,
    unescape (String.ofList ['\\', p.1]) = String.singleton p.2 := by
  decide

theorem unescape_lineTerminator : ∀ c ∈ lineTerminators, unescape (String.ofList ['\\', c]) = "" :=
  List.all_iff_forall_prop.1 (by decide)

theorem LiteralValue.cons_plain {c : Char} {l v : List Char} (hc : c ≠ '\\')
    (h : LiteralValue (c :: l) v) : ∃ v', v = c :: v' ∧ LiteralValue l v' := by
  cases h with
  | char _ _ _ h => exact ⟨_, rfl, h⟩
  | _ => exact absurd rfl hc

theorem LiteralValue.plain {cs l v : List Char} (hplain : ∀ c ∈ cs, c ≠ '\\')
    (h : LiteralValue (cs ++ l) v) : ∃ v', v = cs ++ v' ∧ LiteralValue l v' := by
  induction cs generalizing v with
  | nil => exact ⟨v, rfl, h⟩
  | cons c cs ih =>
    obtain ⟨v₁, rfl, h₁⟩ := LiteralValue.cons_plain (hplain c List.mem_cons_self) h
    obtain ⟨v₂, rfl, h₂⟩ := ih (fun c' hc' => hplain c' (List.mem_cons_of_mem c hc')) h₁
    exact ⟨v₂, rfl, h₂⟩

theorem unescape_identity {c : Char} (hc : c ∉ escapeCharacters) :
    unescape (String.ofList ['\\', c]) = String.singleton c := by
  simp only [escapeCharacters, lineTerminators, List.mem_append, List.mem_cons, not_or,
    List.not_mem_nil, not_false_eq_true, and_true] at hc
  obtain ⟨⟨hb, hf, hn, hr, ht, hv, h0, -, -, -, -, -, -, -, hx, hu⟩, hlf, hcr, hls, hps⟩ := hc
  unfold unescape
  simp only [String.toList_ofList]
  split
  · rename_i hzero
    simp [h0] at hzero
  · simp [hx, hu]

theorem digitTable_not_brace : ∀ p ∈ digitTable, p.1 ≠ '\x7b' ∧ p.1 ≠ '\x7d' := by
  decide

theorem digits_not_brace {cs : List Char} {ds : List Nat}
    (h : List.Forall₂ (fun c d => (c, d) ∈ digitTable) cs ds) :
    ∀ c ∈ cs, c ≠ '\x7b' ∧ c ≠ '\x7d' := by
  induction h with
  | nil => simp
  | cons hcd _ ih =>
    simp only [List.mem_cons]
    rintro c (rfl | hc)
    exacts [digitTable_not_brace _ hcd, ih c hc]

theorem scalar?_of_isScalar {n : Nat} (h : IsScalar n) : scalar? n = some (Char.ofNat n) := by
  unfold IsScalar at h
  unfold scalar?
  have : n < 0xD800 ∨ (0xDFFF < n ∧ n < 0x110000) := by omega
  simp [this]

theorem hexDigits_of_table {cs : List Char} {ds : List Nat}
    (h : List.Forall₂ (fun c d => (c, d) ∈ digitTable) cs ds) :
    List.Forall₂ (fun c d => hexValue? c = some d ∧ d < 16) cs ds :=
  h.imp fun _ _ hcd => ⟨digitTable_hexValue _ hcd, digitTable_lt _ hcd⟩

/-- The hexadecimal digits of an escape name the character with their value, once that value is
a scalar value. -/
theorem unescape_hexDigits {first : Char} {rest cs : List Char} {ds : List Nat}
    (hfirst : first = 'x' ∨ first = 'u') (hne : ds ≠ [])
    (hdigits : List.Forall₂ (fun c d => (c, d) ∈ digitTable) cs ds)
    (hcs : (if first = 'x' then rest
      else ((rest.dropWhile (· == '\x7b')).reverse.dropWhile (· == '\x7d')).reverse) = cs)
    (hs : IsScalar (Nat.ofDigits 16 ds.reverse)) :
    unescape (String.ofList ('\\' :: first :: rest)) =
      String.singleton (Char.ofNat (Nat.ofDigits 16 ds.reverse)) := by
  have hval := radixValue?_hexDigits (hexDigits_of_table hdigits) hne
  have hlt : Nat.ofDigits 16 ds.reverse < Nat.pow 2 32 := by
    have := hs.1
    simp only [Nat.pow_eq]
    omega
  unfold unescape
  rcases hfirst with rfl | rfl
  · simp at hcs
    simp [hcs, hval, hlt, scalar?_of_isScalar hs]
  · simp at hcs
    simp [hcs, hval, hlt, scalar?_of_isScalar hs]

theorem simpleEscapes_not_octal : ∀ p ∈ simpleEscapes, p.1 ∉ octalDigits := by
  decide

theorem octalDigits_escape : ∀ d ∈ octalDigits, d ∈ escapeCharacters :=
  List.all_iff_forall_prop.1 (by decide)

theorem LiteralValue.octal_inv {d : Char} {l v : List Char} (hd : d ∈ octalDigits)
    (h : LiteralValue ('\\' :: d :: l) v) :
    d = '0' ∧ (∀ x ∈ l.head?, x.isDigit = false) ∧ ∃ v', v = '\x00' :: v' ∧ LiteralValue l v' := by
  cases h with
  | zero hnd h => exact ⟨rfl, hnd, _, rfl, h⟩
  | simple he => exact absurd hd (simpleEscapes_not_octal _ he)
  | identity hc => exact absurd (octalDigits_escape _ hd) hc
  | char hc => exact absurd rfl hc
  | _ => simp [octalDigits] at hd

/-- The escape token `\c` of one character other than `x`, `u` and an octal digit, before text
that does not open with a line feed, stands for what `unescape` reads. -/
theorem LiteralValue.single {c : Char} {l v : List Char} (hc : c ∉ 'x' :: 'u' :: octalDigits)
    (hlf : l.head? ≠ some '\n') (h : LiteralValue ('\\' :: c :: l) v) :
    ∃ v', v = (unescape (String.ofList ['\\', c])).toList ++ v' ∧ LiteralValue l v' := by
  have hterm := unescape_lineTerminator
  cases h with
  | simple he h => exact ⟨_, by rw [unescape_simple _ he]; simp, h⟩
  | identity hc' h => exact ⟨_, by rw [unescape_identity hc']; simp, h⟩
  | lineFeed h => exact ⟨_, by rw [hterm '\n' (by decide)]; simp, h⟩
  | carriageReturn _ h => exact ⟨_, by rw [hterm '\r' (by decide)]; simp, h⟩
  | crlf => simp at hlf
  | lineSeparator h => exact ⟨_, by rw [hterm '\u2028' (by decide)]; simp, h⟩
  | paragraphSeparator h => exact ⟨_, by rw [hterm '\u2029' (by decide)]; simp, h⟩
  | char hc' => exact absurd rfl hc'
  | _ => simp [octalDigits] at hc

/-- The escape `\x` and two hexadecimal digits stand for the character of their value. -/
theorem LiteralValue.hexEscape {h₁ h₂ : Char} {d₁ d₂ : Nat} {l v : List Char}
    (hd₁ : (h₁, d₁) ∈ digitTable) (hd₂ : (h₂, d₂) ∈ digitTable)
    (h : LiteralValue ('\\' :: 'x' :: h₁ :: h₂ :: l) v) :
    ∃ v', v = (unescape (String.ofList ['\\', 'x', h₁, h₂])).toList ++ v' ∧ LiteralValue l v' := by
  have hv : Nat.ofDigits 16 [d₂, d₁] = 16 * d₁ + d₂ := by simp [Nat.ofDigits]; ring
  have hs : IsScalar (Nat.ofDigits 16 [d₂, d₁]) := by
    have := digitTable_lt _ hd₁
    have := digitTable_lt _ hd₂
    unfold IsScalar
    omega
  have hread := @unescape_hexDigits 'x' [h₁, h₂] [h₁, h₂] [d₁, d₂] (Or.inl rfl) (by simp)
    (.cons hd₁ (.cons hd₂ .nil)) (by simp) hs
  cases h with
  | hex hd₁' hd₂' h =>
    obtain rfl := digitTable_unique hd₁ hd₁'
    obtain rfl := digitTable_unique hd₂ hd₂'
    refine ⟨_, ?_, h⟩
    rw [hread, List.reverse_cons, List.reverse_singleton, List.singleton_append, hv]
    simp
  | simple he => simp [simpleEscapes] at he
  | identity hc => simp [escapeCharacters] at hc
  | char hc => exact absurd rfl hc

/-- The escape `\u` and four hexadecimal digits stand for the character of their value. -/
theorem LiteralValue.unicodeEscape {h₁ h₂ h₃ h₄ : Char} {d₁ d₂ d₃ d₄ : Nat} {l v : List Char}
    (hd₁ : (h₁, d₁) ∈ digitTable) (hd₂ : (h₂, d₂) ∈ digitTable) (hd₃ : (h₃, d₃) ∈ digitTable)
    (hd₄ : (h₄, d₄) ∈ digitTable) (h : LiteralValue ('\\' :: 'u' :: h₁ :: h₂ :: h₃ :: h₄ :: l) v) :
    ∃ v', v = (unescape (String.ofList ['\\', 'u', h₁, h₂, h₃, h₄])).toList ++ v' ∧
      LiteralValue l v' := by
  have hdigits : List.Forall₂ (fun c d => (c, d) ∈ digitTable) [h₁, h₂, h₃, h₄] [d₁, d₂, d₃, d₄] :=
    .cons hd₁ (.cons hd₂ (.cons hd₃ (.cons hd₄ .nil)))
  have hbraces := digits_not_brace hdigits
  cases h with
  | unicode hd₁' hd₂' hd₃' hd₄' hs h =>
    obtain rfl := digitTable_unique hd₁ hd₁'
    obtain rfl := digitTable_unique hd₂ hd₂'
    obtain rfl := digitTable_unique hd₃ hd₃'
    obtain rfl := digitTable_unique hd₄ hd₄'
    have hread := @unescape_hexDigits 'u' [h₁, h₂, h₃, h₄] [h₁, h₂, h₃, h₄] _ (Or.inr rfl) (by simp)
      hdigits (by simp [(hbraces h₁ (by simp)).1, (hbraces h₄ (by simp)).2]) (by simpa using hs)
    exact ⟨_, by rw [hread]; simp, h⟩
  | braced => exact absurd rfl (digitTable_not_brace _ hd₁).1
  | simple he => simp [simpleEscapes] at he
  | identity hc => simp [escapeCharacters] at hc
  | char hc => exact absurd rfl hc

/-- A run of table digits closed by a brace is read as those digits, and reading stops at the
brace. -/
theorem HexRun.of_digits {cs l rest : List Char} {ds ds' : List Nat}
    (hdigits : List.Forall₂ (fun c d => (c, d) ∈ digitTable) cs ds)
    (h : HexRun (cs ++ '\x7d' :: l) ds' rest) : ds' = ds ∧ rest = l := by
  induction hdigits generalizing ds' with
  | nil =>
    cases h with
    | close => exact ⟨rfl, rfl⟩
    | digit hc => exact absurd rfl (digitTable_not_brace _ hc).2
  | cons hcd _ ih =>
    cases h with
    | close => exact absurd rfl (digitTable_not_brace _ hcd).2
    | digit hc h =>
      obtain ⟨rfl, rfl⟩ := ih h
      exact ⟨by rw [digitTable_unique hcd hc], rfl⟩

/-- Removing the braces around digits that hold no brace leaves the digits. -/
theorem trimBraces_of_digits {cs : List Char} (hcs : ∀ c ∈ cs, c ≠ '\x7b' ∧ c ≠ '\x7d') :
    ((('\x7b' :: cs ++ ['\x7d']).dropWhile (· == '\x7b')).reverse.dropWhile (· == '\x7d')).reverse =
      cs := by
  have hkeep : ∀ (p : Char → Bool) (l : List Char), (∀ c ∈ l, p c = false) → l.dropWhile p = l :=
    fun p l h => List.dropWhile_eq_self_iff.2 fun hl => by simp [h _ (List.getElem_mem hl)]
  have hopen : (cs ++ ['\x7d']).dropWhile (· == '\x7b') = cs ++ ['\x7d'] := by
    refine hkeep _ _ fun c hc => ?_
    rcases List.mem_append.1 hc with hc | hc
    · simpa using (hcs c hc).1
    · simp at hc; simp [hc]
  have hclose : cs.reverse.dropWhile (· == '\x7d') = cs.reverse :=
    hkeep _ _ fun c hc => by simpa using (hcs c (List.mem_reverse.1 hc)).2
  simp only [List.cons_append, List.dropWhile_cons, beq_self_eq_true, if_true, hopen,
    List.reverse_append, List.reverse_singleton, List.nil_append, hclose, List.reverse_reverse]

/-- The escape `\u` and hexadecimal digits in braces stand for the character of their value. -/
theorem LiteralValue.bracedEscape {cs l v : List Char} {ds : List Nat} (hne : ds ≠ [])
    (hdigits : List.Forall₂ (fun c d => (c, d) ∈ digitTable) cs ds)
    (h : LiteralValue ('\\' :: 'u' :: '\x7b' :: (cs ++ '\x7d' :: l)) v) :
    ∃ v', v = (unescape (String.ofList ('\\' :: 'u' :: '\x7b' :: (cs ++ ['\x7d'])))).toList ++ v' ∧
      LiteralValue l v' := by
  have hread := @unescape_hexDigits 'u' ('\x7b' :: (cs ++ ['\x7d'])) cs ds (Or.inr rfl) hne hdigits
    (by simpa using trimBraces_of_digits (digits_not_brace hdigits))
  generalize hrest : cs ++ '\x7d' :: l = rest at h
  cases h with
  | braced hrun _ hs h =>
    subst hrest
    obtain ⟨rfl, rfl⟩ := HexRun.of_digits hdigits hrun
    exact ⟨_, by rw [hread hs]; simp, h⟩
  | unicode hd₁ => exact absurd rfl (digitTable_not_brace _ hd₁).1
  | simple he => simp [simpleEscapes] at he
  | identity hc => simp [escapeCharacters] at hc
  | char hc => exact absurd rfl hc

theorem lineTerminators_erase_cr :
    ∀ b ∈ lineTerminators.erase '\r', b = '\n' ∨ b = '\u2028' ∨ b = '\u2029' :=
  List.all_iff_forall_prop.1 (by decide)

/-- The two-character line-end tokens: after a carriage return the token is a continuation and
stands for nothing; after `?` it is kept as written. -/
theorem unescape_lineEnd : ∀ a ∈ ['\r', '?'], ∀ b ∈ lineTerminators.erase '\r',
    unescape (String.ofList ['\\', a, b]) = if a = '\r' then "" else String.ofList [a, b] := by
  intro a ha b hb
  simp only [List.mem_cons, List.not_mem_nil, or_false] at ha
  rcases ha with rfl | rfl <;> rcases lineTerminators_erase_cr b hb with rfl | rfl | rfl <;> decide

/-- A line-end token stands for what `unescape` reads, unless it is a carriage return before a
line or paragraph separator: there ECMAScript ends the continuation at the carriage return. -/
theorem LiteralValue.lineEndEscape {a b : Char} {l v : List Char} (ha : a ∈ ['\r', '?'])
    (hb : b ∈ lineTerminators.erase '\r') (hcont : a = '\r' → b = '\n')
    (h : LiteralValue ('\\' :: a :: b :: l) v) :
    ∃ v', v = (unescape (String.ofList ['\\', a, b])).toList ++ v' ∧ LiteralValue l v' := by
  rw [unescape_lineEnd a ha b hb]
  simp only [List.mem_cons, List.not_mem_nil, or_false] at ha
  rcases ha with rfl | rfl
  · obtain rfl := hcont rfl
    cases h with
    | crlf h => exact ⟨_, by simp, h⟩
    | carriageReturn hlf => simp at hlf
    | simple he => simp [simpleEscapes] at he
    | identity hc => simp [escapeCharacters, lineTerminators] at hc
    | char hc => exact absurd rfl hc
  · have hb' : b ≠ '\\' := by
      rintro rfl
      simp [lineTerminators] at hb
    cases h with
    | identity _ h =>
      obtain ⟨v', rfl, h'⟩ := LiteralValue.cons_plain hb' h
      exact ⟨v', by simp, h'⟩
    | simple he => simp [simpleEscapes] at he
    | char hc => exact absurd rfl hc

theorem octalDigits_isDigit : ∀ d ∈ octalDigits, d.isDigit = true :=
  List.all_eq_true.1 (by decide)

/-- Every escape token the grammar reads, other than a carriage return before a line or
paragraph separator, stands for what `unescape` reads, once the text after it does not open
with a line feed. -/
theorem LiteralValue.escape {body l v : List Char} (htok : EscapeToken body)
    (hcont : body ≠ ['\r', '\u2028'] ∧ body ≠ ['\r', '\u2029']) (hlf : l.head? ≠ some '\n')
    (h : LiteralValue ('\\' :: body ++ l) v) :
    ∃ v', v = (unescape (String.ofList ('\\' :: body))).toList ++ v' ∧ LiteralValue l v' := by
  simp only [List.cons_append] at h
  cases htok with
  | single hc => exact LiteralValue.single hc hlf h
  | octal hne _ hd =>
    obtain ⟨d, ds, rfl⟩ := List.exists_cons_of_ne_nil hne
    obtain ⟨rfl, hnd, v', rfl, h'⟩ := LiteralValue.octal_inv (hd d List.mem_cons_self) h
    cases ds with
    | nil => exact ⟨v', by rw [show unescape (String.ofList ['\\', '0']) = "\x00" by decide]; rfl, h'⟩
    | cons d' ds =>
      have hdigit := octalDigits_isDigit d' (hd d' (by simp))
      simp [hnd d' rfl] at hdigit
  | hex hd₁ hd₂ => exact LiteralValue.hexEscape hd₁ hd₂ h
  | unicode hd₁ hd₂ hd₃ hd₄ => exact LiteralValue.unicodeEscape hd₁ hd₂ hd₃ hd₄ h
  | braced hne hdigits =>
    simp only [List.cons_append, List.append_assoc] at h ⊢
    exact LiteralValue.bracedEscape hne hdigits h
  | @lineEnd a b ha hb =>
    refine LiteralValue.lineEndEscape ha hb (fun hcr => ?_) h
    subst hcr
    rcases lineTerminators_erase_cr b hb with rfl | rfl | rfl
    · rfl
    · exact absurd rfl hcont.1
    · exact absurd rfl hcont.2

/-- A run of digits closed by a brace has one reading. -/
theorem HexRun.functional {cs ds ds' rest rest'} (h₁ : HexRun cs ds rest)
    (h₂ : HexRun cs ds' rest') : ds = ds' ∧ rest = rest' := by
  induction h₁ generalizing ds' rest' with
  | close =>
    cases h₂ with
    | close => exact ⟨rfl, rfl⟩
    | digit hc => exact absurd rfl (digitTable_not_brace _ hc).2
  | digit hc _ ih =>
    cases h₂ with
    | close => exact absurd rfl (digitTable_not_brace _ hc).2
    | digit hc' h' =>
      obtain ⟨rfl, rfl⟩ := ih h'
      exact ⟨by rw [digitTable_unique hc hc'], rfl⟩

theorem simpleEscapes_unique {e c c' : Char} (h : (e, c) ∈ simpleEscapes)
    (h' : (e, c') ∈ simpleEscapes) : c = c' := by
  have hfun : ∀ p ∈ simpleEscapes, ∀ q ∈ simpleEscapes, p.1 = q.1 → p.2 = q.2 := by decide
  exact hfun _ h _ h' rfl

/-- A literal has at most one string value. -/
theorem LiteralValue.functional {l v w : List Char} (h₁ : LiteralValue l v)
    (h₂ : LiteralValue l w) : v = w := by
  -- induction on the first reading; in each case the second reading has taken the same step,
  -- since the other steps start with another character or need another character after it
  induction h₁ generalizing w with
  | nil => cases h₂; rfl
  | char hc _ _ _ ih =>
    obtain ⟨w', rfl, h'⟩ := h₂.cons_plain hc
    rw [ih h']
  | simple he _ ih =>
    cases h₂ with
    | simple he' h' => rw [simpleEscapes_unique he he', ih h']
    | _ => simp_all [simpleEscapes, escapeCharacters]
  | zero _ _ ih =>
    cases h₂ with
    | zero _ h' => rw [ih h']
    | _ => simp_all [simpleEscapes, escapeCharacters]
  | lineFeed _ ih =>
    cases h₂ with
    | lineFeed h' => exact ih h'
    | _ => simp_all [simpleEscapes, escapeCharacters, lineTerminators]
  | carriageReturn hlf _ ih =>
    cases h₂ with
    | carriageReturn _ h' => exact ih h'
    | _ => simp_all [simpleEscapes, escapeCharacters, lineTerminators]
  | crlf _ ih =>
    cases h₂ with
    | crlf h' => exact ih h'
    | _ => simp_all [simpleEscapes, escapeCharacters, lineTerminators]
  | lineSeparator _ ih =>
    cases h₂ with
    | lineSeparator h' => exact ih h'
    | _ => simp_all [simpleEscapes, escapeCharacters, lineTerminators]
  | paragraphSeparator _ ih =>
    cases h₂ with
    | paragraphSeparator h' => exact ih h'
    | _ => simp_all [simpleEscapes, escapeCharacters, lineTerminators]
  | hex hd₁ hd₂ _ ih =>
    cases h₂ with
    | hex hd₁' hd₂' h' => rw [digitTable_unique hd₁ hd₁', digitTable_unique hd₂ hd₂', ih h']
    | _ => simp_all [simpleEscapes, escapeCharacters]
  | unicode hd₁ hd₂ hd₃ hd₄ _ _ ih =>
    cases h₂ with
    | unicode hd₁' hd₂' hd₃' hd₄' _ h' =>
      rw [digitTable_unique hd₁ hd₁', digitTable_unique hd₂ hd₂', digitTable_unique hd₃ hd₃',
        digitTable_unique hd₄ hd₄', ih h']
    | braced => exact absurd rfl (digitTable_not_brace _ hd₁).1
    | _ => simp_all [simpleEscapes, escapeCharacters]
  | braced hrun _ _ _ ih =>
    cases h₂ with
    | braced hrun' _ _ h' =>
      obtain ⟨rfl, rfl⟩ := hrun.functional hrun'
      rw [ih h']
    | unicode hd₁ => exact absurd rfl (digitTable_not_brace _ hd₁).1
    | _ => simp_all [simpleEscapes, escapeCharacters]
  | identity hc _ ih =>
    cases h₂ with
    | identity _ h' => rw [ih h']
    | _ => simp_all [simpleEscapes, escapeCharacters, lineTerminators]

theorem StringPart.head {k : String} {cs : List Char} (h : StringPart k cs) :
    ∃ c t, cs = c :: t ∧ c ≠ '\n' := by
  cases h with
  | fragment hne hplain =>
    obtain ⟨c, t, rfl⟩ := List.exists_cons_of_ne_nil hne
    exact ⟨c, t, rfl, (hplain c List.mem_cons_self).2.2⟩
  | escape => exact ⟨'\\', _, rfl, by decide⟩

theorem flatMap_parts_head {src : Source} {parts : List Node}
    (hparts : ∀ p ∈ parts, StringPart p.kind (src.slice p.start p.stop).toList) :
    (parts.flatMap fun p => (src.slice p.start p.stop).toList).head? ≠ some '\n' := by
  cases parts with
  | nil => simp
  | cons p ps =>
    obtain ⟨c, t, hct, hc⟩ := (hparts p List.mem_cons_self).head
    simp [List.flatMap_cons, hct, hc]

/-- One part read on its own: a fragment stands for its text and an escape token for what
`unescape` reads, and the value of the rest of the literal follows. -/
theorem stringPart_step {src : Source} {p : Node} {l v : List Char} (acc : String)
    (hp : StringPart p.kind (src.slice p.start p.stop).toList)
    (hpc : (src.slice p.start p.stop).toList ≠ ['\\', '\r', '\u2028'] ∧
      (src.slice p.start p.stop).toList ≠ ['\\', '\r', '\u2029'])
    (hlf : l.head? ≠ some '\n') (h : LiteralValue ((src.slice p.start p.stop).toList ++ l) v) :
    ∃ u v', v = u ++ v' ∧ LiteralValue l v' ∧
      (if p.kind == "string_fragment" then acc ++ src.slice p.start p.stop
      else if p.kind == "escape_sequence" then acc ++ unescape (src.slice p.start p.stop)
      else acc) = acc ++ String.ofList u := by
  generalize hk : p.kind = k at hp
  generalize ht : (src.slice p.start p.stop).toList = cs at hp h hpc
  have hslice : src.slice p.start p.stop = String.ofList cs := by rw [← ht, String.ofList_toList]
  rw [hslice]
  cases hp with
  | fragment _ hplain =>
    obtain ⟨v', rfl, h'⟩ := LiteralValue.plain (fun c hc => (hplain c hc).1) h
    exact ⟨_, v', rfl, h', by simp⟩
  | @escape body htok =>
    have hcr : body ≠ ['\r', '\u2028'] ∧ body ≠ ['\r', '\u2029'] :=
      ⟨fun e => hpc.1 (by rw [e]), fun e => hpc.2 (by rw [e])⟩
    obtain ⟨v', rfl, h'⟩ := LiteralValue.escape htok hcr hlf h
    have hkind : ("escape_sequence" == "string_fragment") = false := by decide
    refine ⟨_, v', rfl, h', ?_⟩
    simp only [hkind, beq_self_eq_true, Bool.false_eq_true, if_true, if_false,
      String.ofList_toList]

/-- Reading the parts of a literal one by one appends the value of their text. -/
theorem foldl_stringParts {src : Source} {parts : List Node} {v : List Char} (acc : String)
    (hparts : ∀ p ∈ parts, StringPart p.kind (src.slice p.start p.stop).toList)
    (hcont : ∀ p ∈ parts, (src.slice p.start p.stop).toList ≠ ['\\', '\r', '\u2028'] ∧
      (src.slice p.start p.stop).toList ≠ ['\\', '\r', '\u2029'])
    (h : LiteralValue (parts.flatMap fun p => (src.slice p.start p.stop).toList) v) :
    parts.foldl (fun acc part =>
      if part.kind == "string_fragment" then acc ++ src.slice part.start part.stop
      else if part.kind == "escape_sequence" then acc ++ unescape (src.slice part.start part.stop)
      else acc) acc = acc ++ String.ofList v := by
  -- induction on the parts: each step reads one part (`stringPart_step`)
  induction parts generalizing acc v with
  | nil =>
    cases h
    simp
  | cons p ps ih =>
    have hps := fun q hq => hparts q (List.mem_cons_of_mem p hq)
    have hcont' := fun q hq => hcont q (List.mem_cons_of_mem p hq)
    rw [List.flatMap_cons] at h
    obtain ⟨u, v', rfl, h', hstep⟩ := stringPart_step acc (hparts p List.mem_cons_self)
      (hcont p List.mem_cons_self) (flatMap_parts_head hps) h
    simp only [List.foldl_cons]
    rw [hstep, ih _ hps hcont' h', String.ofList_append, String.append_assoc]

/-- The value `stringValue` gives a literal is its ECMAScript string value, once the grammar
splits the literal into fragments and escape tokens and no escape token is a carriage return
before a line or paragraph separator; a string key is named by that value. -/
theorem stringValue_literalValue {src : Source} {n : Node} {v : List Char}
    (hparts : ∀ p ∈ n.namedChildren, StringPart p.kind (src.slice p.start p.stop).toList)
    (hcont : ∀ p ∈ n.namedChildren, (src.slice p.start p.stop).toList ≠ ['\\', '\r', '\u2028'] ∧
      (src.slice p.start p.stop).toList ≠ ['\\', '\r', '\u2029'])
    (hsv : LiteralValue (n.namedChildren.flatMap fun p => (src.slice p.start p.stop).toList) v) :
    stringValue src n = String.ofList v ∧ (n.kind = "string" → keyName src n = some (String.ofList v)) := by
  have hvalue : stringValue src n = String.ofList v := by
    unfold stringValue
    rw [foldl_stringParts "" hparts hcont hsv, String.empty_append]
  refine ⟨hvalue, fun hk => ?_⟩
  unfold keyName
  rw [hk, hvalue]
  rfl

/-- The literal `"a\x62\` CR LF `c"`: a fragment, a hexadecimal escape, a line continuation
and a fragment between the quotes. -/
def continuedLiteral : Node :=
  .mk "string" true false none 0 11
    [.mk "\"" false false none 0 1 [], .mk "string_fragment" true false none 1 2 [],
      .mk "escape_sequence" true false none 2 6 [], .mk "escape_sequence" true false none 6 9 [],
      .mk "string_fragment" true false none 9 10 [], .mk "\"" false false none 10 11 []]

theorem continuedLiteral_value :
    let src := Source.ofString "\"a\\x62\\\r\nc\""
    stringValue src continuedLiteral = "abc" ∧ keyName src continuedLiteral = some "abc" := by
  intro src
  have htexts : continuedLiteral.namedChildren.map
      (fun p => (p.kind, (src.slice p.start p.stop).toList)) =
      [("string_fragment", ['a']), ("escape_sequence", ['\\', 'x', '6', '2']),
        ("escape_sequence", ['\\', '\r', '\n']), ("string_fragment", ['c'])] := by
    decide +kernel
  have hparts : ∀ p ∈ continuedLiteral.namedChildren,
      StringPart p.kind (src.slice p.start p.stop).toList ∧
      (src.slice p.start p.stop).toList ≠ ['\\', '\r', '\u2028'] ∧
      (src.slice p.start p.stop).toList ≠ ['\\', '\r', '\u2029'] := by
    intro p hp
    have hmem : (p.kind, (src.slice p.start p.stop).toList) ∈ _ := htexts ▸ List.mem_map_of_mem hp
    simp only [List.mem_cons, Prod.mk.injEq, List.not_mem_nil, or_false] at hmem
    rcases hmem with ⟨hk, ht⟩ | ⟨hk, ht⟩ | ⟨hk, ht⟩ | ⟨hk, ht⟩ <;> rw [hk, ht]
    · exact ⟨.fragment (by simp) (List.all_iff_forall_prop.1 (by decide)), by decide, by decide⟩
    · exact ⟨.escape (@EscapeToken.hex '6' '2' 6 2 (by decide) (by decide)), by decide, by decide⟩
    · exact ⟨.escape (.lineEnd (by decide) (by decide)), by decide, by decide⟩
    · exact ⟨.fragment (by simp) (List.all_iff_forall_prop.1 (by decide)), by decide, by decide⟩
  have hbody : continuedLiteral.namedChildren.flatMap (fun p => (src.slice p.start p.stop).toList) =
      ['a', '\\', 'x', '6', '2', '\\', '\r', '\n', 'c'] := by
    decide +kernel
  have hsv : LiteralValue ['a', '\\', 'x', '6', '2', '\\', '\r', '\n', 'c']
      ['a', Char.ofNat (16 * 6 + 2), 'c'] :=
    .char (by decide) (by decide) (by decide) <|
      @LiteralValue.hex '6' '2' 6 2 _ _ (by decide) (by decide) <|
      .crlf <| .char (by decide) (by decide) (by decide) .nil
  obtain ⟨hvalue, hkey⟩ := stringValue_literalValue (fun p hp => (hparts p hp).1)
    (fun p hp => (hparts p hp).2) (hbody ▸ hsv)
  have habc : String.ofList ['a', Char.ofNat (16 * 6 + 2), 'c'] = "abc" := by decide
  exact ⟨hvalue.trans habc, habc ▸ hkey rfl⟩

/-- The key `"a\` CR LS `b"` of `return {"a\` CR LS `b": 1}`: the grammar reads the
carriage return and the line separator as one escape token. -/
def separatorKey : Node :=
  .mk "string" true false (some "key") 22 31
    [.mk "\"" false false none 22 23 [], .mk "string_fragment" true false none 23 24 [],
      .mk "escape_sequence" true false none 24 29 [],
      .mk "string_fragment" true false none 29 30 [], .mk "\"" false false none 30 31 []]

/-- After a backslash and a carriage return the line separator is a character of the literal,
but the key is named without it. -/
theorem separatorKey_name :
    let src := Source.ofString
      "function f()\x7b return \x7b\"a\\\r\u2028b\": 1\x7d \x7d\nmodule.exports = f"
    (∀ p ∈ separatorKey.namedChildren, StringPart p.kind (src.slice p.start p.stop).toList) ∧
    (∀ v, LiteralValue (separatorKey.namedChildren.flatMap
      fun p => (src.slice p.start p.stop).toList) v ↔ v = ['a', '\u2028', 'b']) ∧
    keyName src separatorKey = some "ab" := by
  intro src
  have htexts : separatorKey.namedChildren.map
      (fun p => (p.kind, (src.slice p.start p.stop).toList)) =
      [("string_fragment", ['a']), ("escape_sequence", ['\\', '\r', '\u2028']),
        ("string_fragment", ['b'])] := by
    decide +kernel
  have hparts : ∀ p ∈ separatorKey.namedChildren,
      StringPart p.kind (src.slice p.start p.stop).toList := by
    intro p hp
    have hmem : (p.kind, (src.slice p.start p.stop).toList) ∈ _ := htexts ▸ List.mem_map_of_mem hp
    simp only [List.mem_cons, Prod.mk.injEq, List.not_mem_nil, or_false] at hmem
    rcases hmem with ⟨hk, ht⟩ | ⟨hk, ht⟩ | ⟨hk, ht⟩ <;> rw [hk, ht]
    · exact .fragment (by simp) (List.all_iff_forall_prop.1 (by decide))
    · exact .escape (.lineEnd (by decide) (by decide))
    · exact .fragment (by simp) (List.all_iff_forall_prop.1 (by decide))
  have hbody : separatorKey.namedChildren.flatMap (fun p => (src.slice p.start p.stop).toList) =
      ['a', '\\', '\r', '\u2028', 'b'] := by
    decide +kernel
  -- ECMAScript: the backslash and the carriage return are a line continuation
  have hsv : LiteralValue ['a', '\\', '\r', '\u2028', 'b'] ['a', '\u2028', 'b'] :=
    .char (by decide) (by decide) (by decide) <| .carriageReturn (by decide) <|
      .char (by decide) (by decide) (by decide) <| .char (by decide) (by decide) (by decide) .nil
  refine ⟨hparts, fun v => ?_, by decide +kernel⟩
  rw [hbody]
  exact ⟨fun h => h.functional hsv, fun h => h ▸ hsv⟩

end PluginLens.Syntax
