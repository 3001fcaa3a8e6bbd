import PluginLens.Docs.Block
import PluginLens.Proofs.Position
import Mathlib.Data.Nat.Find

/-!
# The type written at the start of a tag value

A tag value may start with a type in braces, `{A|B}`. `splitType?` counts the braces from the
start of the value, one character at a time, with a counter that a `{` raises and a `}` lowers;
at the `}` that brings it back to zero, the bytes between the first brace and that one give the
type names and the bytes after it the rest. The counter is a natural number, and the count
would stop the program if a `}` came while it is zero, as would a slice whose ends cut a
character.

Neither happens. The value starts with `{`, so the counter is one after the first character,
and it moves by one at a time: it reaches zero at a `}` seen at one, where the count stops, and
is never asked to go lower (`scanBraces_cases`). The closing brace is found at the end of the
shortest prefix of the value that holds as many `}` as `{`, and both braces take one byte, so
the two slices start and stop on character boundaries (`slice?_of_split`). The main statement
is `splitType_shortestBalanced`.
-/

namespace PluginLens.Docs

open PluginLens.Text

/-! ## Counting braces -/

/-- After the characters `p`, counting from `depth`, no brace is left open. -/
def ClosedAfter (depth : Nat) (p : List Char) : Prop := depth + p.count '{' = p.count '}'

instance (depth : Nat) (p : List Char) : Decidable (ClosedAfter depth p) :=
  inferInstanceAs (Decidable (_ = _))

/-- The count from `depth` over `cs` reaches zero at its `k`-th character and not before. -/
def ClosesFirstAt (depth : Nat) (cs : List Char) (k : Nat) : Prop :=
  k < cs.length ∧ ClosedAfter depth (cs.take (k + 1)) ∧ ∀ j ≤ k, ¬ ClosedAfter depth (cs.take j)

/-- A run of characters holding as many `}` as `{`. -/
def Balanced (p : List Char) : Prop := p.count '{' = p.count '}'

instance (p : List Char) : Decidable (Balanced p) := inferInstanceAs (Decidable (_ = _))

/-- `k` is the length of the shortest non-empty prefix of `cs` that is balanced. -/
def IsShortestBalanced (cs : List Char) (k : Nat) : Prop :=
  0 < k ∧ k ≤ cs.length ∧ Balanced (cs.take k) ∧ ∀ j, 0 < j → j < k → ¬ Balanced (cs.take j)

theorem closedAfter_open (d : Nat) (p : List Char) :
    ClosedAfter d ('{' :: p) ↔ ClosedAfter (d + 1) p := by
  simp only [ClosedAfter, List.count_cons_self, List.count_cons, beq_iff_eq]
  simp
  omega

theorem closedAfter_close (d : Nat) (p : List Char) :
    ClosedAfter (d + 1) ('}' :: p) ↔ ClosedAfter d p := by
  simp only [ClosedAfter, List.count_cons_self, List.count_cons, beq_iff_eq]
  simp
  omega

theorem closedAfter_other {c : Char} (h₁ : c ≠ '{') (h₂ : c ≠ '}') (d : Nat) (p : List Char) :
    ClosedAfter d (c :: p) ↔ ClosedAfter d p := by
  simp [ClosedAfter, h₁, h₂]

theorem closedAfter_zero_iff (p : List Char) : ClosedAfter 0 p ↔ Balanced p := by
  simp [ClosedAfter, Balanced]

/-- Past a first character that moves the count from `d` to `d'`, the count closes one
character later. -/
theorem closesFirstAt_cons {d d' : Nat} {c : Char} {rest : List Char} {k : Nat} (hd : 0 < d)
    (hstep : ∀ p, ClosedAfter d (c :: p) ↔ ClosedAfter d' p) :
    ClosesFirstAt d (c :: rest) (k + 1) ↔ ClosesFirstAt d' rest k := by
  -- the empty prefix is open since `d` is positive; the others are those of `rest`, shifted
  have hnil : ¬ ClosedAfter d [] := by simp [ClosedAfter]; omega
  simp only [ClosesFirstAt, List.length_cons, List.take_succ_cons, hstep]
  constructor
  · rintro ⟨hlen, hclosed, hopen⟩
    refine ⟨by omega, hclosed, fun j hj => ?_⟩
    have := hopen (j + 1) (by omega)
    rwa [List.take_succ_cons, hstep] at this
  · rintro ⟨hlen, hclosed, hopen⟩
    refine ⟨by omega, hclosed, fun j hj => ?_⟩
    cases j with
    | zero => simpa using hnil
    | succ j => rw [List.take_succ_cons, hstep]; exact hopen j (by omega)

theorem ClosesFirstAt.unique {d : Nat} {cs : List Char} {k k' : Nat} (h : ClosesFirstAt d cs k)
    (h' : ClosesFirstAt d cs k') : k = k' := by
  rcases Nat.lt_trichotomy k k' with hlt | heq | hgt
  · exact absurd h.2.1 (h'.2.2 (k + 1) hlt)
  · exact heq
  · exact absurd h'.2.1 (h.2.2 (k' + 1) hgt)

/-- A prefix after which nothing is open has a shortest one, when the count starts open. -/
theorem exists_closesFirstAt {d : Nat} {cs : List Char} {m : Nat} (hd : 0 < d)
    (h : ClosedAfter d (cs.take m)) : ∃ k, ClosesFirstAt d cs k := by
  have hex : ∃ j, ClosedAfter d (cs.take j) := ⟨m, h⟩
  classical
  let j := Nat.find hex
  have hj : ClosedAfter d (cs.take j) := Nat.find_spec hex
  have hmin : ∀ i < j, ¬ ClosedAfter d (cs.take i) := fun i hi => Nat.find_min hex hi
  have hpos : 0 < j := by
    refine Nat.pos_of_ne_zero fun h0 => ?_
    rw [h0, List.take_zero] at hj
    simp [ClosedAfter] at hj
    omega
  have hle : j ≤ cs.length := by
    refine Nat.le_of_not_lt fun hlt => hmin cs.length hlt ?_
    rw [List.take_of_length_le (Nat.le_of_lt hlt)] at hj
    rwa [List.take_length]
  exact ⟨j - 1, by omega, by rwa [Nat.sub_add_cancel hpos],
    fun i hi => hmin i (by omega)⟩

/-! ## The count as the program runs it -/

theorem zip_offsetsFrom_cons (base : Nat) (c : Char) (cs : List Char) :
    (offsetsFrom base (c :: cs)).zip (c :: cs) =
      (base, c) :: (offsetsFrom (base + c.utf8Size) cs).zip cs := rfl

/-- What the count from `d` over `cs`, with offsets from `base`, comes to: it stops at the
`}` where the count first reaches zero, at that character's offset, or reaches the end with a
brace open. It never meets a `}` at zero. -/
def ScanOutcome (d base : Nat) (cs : List Char) : Prop :=
  (∃ k, ClosesFirstAt d cs k ∧ cs[k]? = some '}' ∧
    scanBraces d ((offsetsFrom base cs).zip cs) =
      .closesAt (base + (String.ofList (cs.take k)).utf8ByteSize)) ∨
  ((∀ k, ¬ ClosesFirstAt d cs k) ∧ scanBraces d ((offsetsFrom base cs).zip cs) = .unclosed)

/-- A character that moves a positive count to another positive one, without closing it,
leaves the outcome to the rest of the text. -/
theorem ScanOutcome.cons {d d' base : Nat} {c : Char} {rest : List Char} (hd : 0 < d)
    (hstep : ∀ p, ClosedAfter d (c :: p) ↔ ClosedAfter d' p)
    (hscan : scanBraces d ((base, c) :: (offsetsFrom (base + c.utf8Size) rest).zip rest) =
      scanBraces d' ((offsetsFrom (base + c.utf8Size) rest).zip rest))
    (hzero : ¬ ClosesFirstAt d (c :: rest) 0) (ih : ScanOutcome d' (base + c.utf8Size) rest) :
    ScanOutcome d base (c :: rest) := by
  unfold ScanOutcome
  rw [zip_offsetsFrom_cons, hscan]
  rcases ih with ⟨k, hk, hget, hs⟩ | ⟨hno, hs⟩
  · refine .inl ⟨k + 1, (closesFirstAt_cons hd hstep).2 hk, by simpa using hget, ?_⟩
    rw [hs, List.take_succ_cons, utf8ByteSize_ofList_cons, Nat.add_assoc]
  · refine .inr ⟨fun k hk => ?_, hs⟩
    cases k with
    | zero => exact hzero hk
    | succ k => exact hno k ((closesFirstAt_cons hd hstep).1 hk)

/-- From a positive count the scan never goes below zero. -/
theorem scanBraces_cases (cs : List Char) : ∀ d base, 0 < d → ScanOutcome d base cs := by
  induction cs with
  | nil => exact fun d base _ => .inr ⟨fun k h => by simp [ClosesFirstAt] at h, rfl⟩
  | cons c rest ih =>
    intro d base hd
    by_cases ho : c = '{'
    · subst ho
      exact ScanOutcome.cons hd (closedAfter_open d) (by simp [scanBraces])
        (fun h => by simp [ClosesFirstAt, ClosedAfter] at h) (ih _ _ (by omega))
    by_cases hc : c = '}'
    · subst hc
      obtain ⟨e, rfl⟩ : ∃ e, d = e + 1 := ⟨d - 1, by omega⟩
      cases e with
      | zero =>
        refine .inl ⟨0, ⟨by simp, by simp [ClosedAfter], fun j hj => ?_⟩, rfl, ?_⟩
        · obtain rfl : j = 0 := by omega
          simp [ClosedAfter]
        · simp [zip_offsetsFrom_cons, scanBraces]
      | succ e =>
        exact ScanOutcome.cons hd (closedAfter_close (e + 1)) (by simp [scanBraces])
          (fun h => by simp [ClosesFirstAt, ClosedAfter] at h) (ih _ _ (by omega))
    · exact ScanOutcome.cons hd (closedAfter_other ho hc d) (by simp [scanBraces, ho, hc])
        (fun h => by simp [ClosesFirstAt, ClosedAfter, ho, hc] at h) (ih _ _ hd)

/-! ## Slices between boundaries -/

/-- The bytes of a run of characters, between the bytes of what precedes it and of what
precedes and includes it, are read back as that run. -/
theorem slice?_of_split {s : String} {p m q : List Char} (h : s.toList = p ++ m ++ q) :
    (Source.ofString s).slice? (String.ofList p).utf8ByteSize
      (String.ofList (p ++ m)).utf8ByteSize = some (String.ofList m) := by
  have hp := Source.indexOfByte?_split s (q := m ++ q) (by rw [h, List.append_assoc])
  have hpm := Source.indexOfByte?_split s h
  have hchars : ((Source.ofString s).chars.extract p.length (p ++ m).length).toList = m := by
    simp [Source.ofString, h]
  simp only [Source.slice?, hp, hpm]
  rw [if_pos (by simp), Source.charsBetween, hchars]

/-! ## The type split off -/

theorem charIndices_open (v : String) {rest : List Char} (h : v.toList = '{' :: rest) :
    scanBraces 0 (charIndices v) = scanBraces 1 ((offsetsFrom 1 rest).zip rest) := by
  rw [charIndices, h, zip_offsetsFrom_cons]
  rfl

/-- The shortest balanced prefix of a value opened by `{` is one brace longer than the place
where the count after that brace first closes. -/
theorem isShortestBalanced_open {rest : List Char} {k : Nat} :
    IsShortestBalanced ('{' :: rest) (k + 2) ↔ ClosesFirstAt 1 rest k := by
  simp only [IsShortestBalanced, ClosesFirstAt, List.length_cons, List.take_succ_cons,
    ← closedAfter_zero_iff, closedAfter_open]
  constructor
  · rintro ⟨-, hlen, hclosed, hopen⟩
    refine ⟨by omega, hclosed, fun j hj => ?_⟩
    have := hopen (j + 1) (by omega) (by omega)
    rwa [List.take_succ_cons, closedAfter_open] at this
  · rintro ⟨hlen, hclosed, hopen⟩
    refine ⟨by omega, by omega, hclosed, fun j hj hjk => ?_⟩
    obtain ⟨i, rfl⟩ : ∃ i, j = i + 1 := ⟨j - 1, by omega⟩
    rw [List.take_succ_cons, closedAfter_open]
    exact hopen i (by omega)

/-- Where the count closes, the value splits into its brace, the type, the closing brace and
the rest, and both slices are read. -/
theorem splitType?_closes {v : String} {rest : List Char} {k : Nat}
    (h : v.toList = '{' :: rest) (hget : rest[k]? = some '}') :
    (Source.ofString v).slice? 1 (1 + (String.ofList (rest.take k)).utf8ByteSize) =
        some (String.ofList (rest.take k)) ∧
      (Source.ofString v).slice? (1 + (String.ofList (rest.take k)).utf8ByteSize + 1)
          (Source.ofString v).byteSize = some (String.ofList (rest.drop (k + 1))) := by
  obtain ⟨hk, hk'⟩ := List.getElem?_eq_some_iff.1 hget
  have hsplit : rest = rest.take k ++ '}' :: rest.drop (k + 1) := by
    rw [← hk', ← List.drop_eq_getElem_cons hk, List.take_append_drop]
  have hone : ∀ p : List Char, (String.ofList ('{' :: p)).utf8ByteSize =
      1 + (String.ofList p).utf8ByteSize := fun p => utf8ByteSize_ofList_cons '{' p
  have hclose : (String.ofList (('{' :: rest.take k) ++ ['}'])).utf8ByteSize =
      1 + (String.ofList (rest.take k)).utf8ByteSize + 1 := by
    rw [utf8ByteSize_ofList_append, hone]
    rfl
  constructor
  · have := slice?_of_split (s := v) (p := ['{']) (m := rest.take k)
      (q := '}' :: rest.drop (k + 1)) (by rw [h]; exact congrArg _ hsplit)
    rwa [show (String.ofList ['{']).utf8ByteSize = 1 from rfl, List.singleton_append,
      hone] at this
  · have := slice?_of_split (s := v) (p := ('{' :: rest.take k) ++ ['}'])
      (m := rest.drop (k + 1)) (q := []) (by
        rw [h, List.append_nil, List.append_assoc, List.singleton_append, List.cons_append,
          ← hsplit])
    rw [Source.byteSize_ofString]
    rwa [hclose, show ('{' :: rest.take k) ++ ['}'] ++ rest.drop (k + 1) = v.toList by
      rw [h, List.append_assoc, List.singleton_append, List.cons_append, ← hsplit],
      String.ofList_toList] at this

theorem balanced_take_open {rest : List Char} {j : Nat} :
    Balanced (('{' :: rest).take (j + 1)) ↔ ClosedAfter 1 (rest.take j) := by
  rw [List.take_succ_cons, ← closedAfter_zero_iff, closedAfter_open]

theorem IsShortestBalanced.two_le {rest : List Char} {m : Nat}
    (h : IsShortestBalanced ('{' :: rest) m) : ∃ k, m = k + 2 := by
  obtain ⟨hpos, -, hbal, -⟩ := h
  refine ⟨m - 2, ?_⟩
  have hone : m ≠ 1 := by
    rintro rfl
    simp [Balanced] at hbal
  omega

/-- No non-empty prefix of a value opened by `{` is balanced when the count after that brace
never closes. -/
theorem not_balanced_of_unclosed {rest : List Char} (hno : ∀ k, ¬ ClosesFirstAt 1 rest k)
    {m : Nat} (hm : 0 < m) : ¬ Balanced (('{' :: rest).take m) := by
  intro hbal
  obtain ⟨j, rfl⟩ : ∃ j, m = j + 1 := ⟨m - 1, by omega⟩
  rw [balanced_take_open] at hbal
  obtain ⟨k, hk⟩ := exists_closesFirstAt Nat.one_pos hbal
  exact hno k hk

theorem splitType_eq_of_splitType? {v : String} {r : Option TypeNames × String}
    (h : splitType? v = some r) : splitType v = r := by
  rw [splitType, h]
  rfl

theorem splitType?_not_open {v : String} (h : v.toList.head? ≠ some '{') :
    splitType? v = some (none, v) := by
  simp [splitType?, h]

/-- Where the count after the first brace closes, the type and the rest are read from the two
slices around the closing brace. -/
theorem splitType?_of_closesFirstAt {v : String} {rest : List Char} {k : Nat}
    (h : v.toList = '{' :: rest) (hk : ClosesFirstAt 1 rest k) :
    splitType? v = some (some (typeNames (String.ofList (rest.take k))),
      trimStartWhite (String.ofList (rest.drop (k + 1)))) := by
  rcases scanBraces_cases rest 1 1 Nat.one_pos with ⟨k', hk', hget, hs⟩ | ⟨hno, -⟩
  · obtain rfl := hk.unique hk'
    obtain ⟨hinner, hrest⟩ := splitType?_closes h hget
    simp only [splitType?, h, List.head?_cons, ↓reduceIte, charIndices_open v h, hs, hinner,
      hrest]
  · exact absurd hk (hno k)

theorem splitType?_of_unclosed {v : String} {rest : List Char} (h : v.toList = '{' :: rest)
    (hno : ∀ k, ¬ ClosesFirstAt 1 rest k) : splitType? v = some (none, v) := by
  rcases scanBraces_cases rest 1 1 Nat.one_pos with ⟨k, hk, -, -⟩ | ⟨-, hs⟩
  · exact absurd hk (hno k)
  · simp only [splitType?, h, List.head?_cons, ↓reduceIte, charIndices_open v h, hs]

/-- `splitType` runs to its end on every value: the count never goes below zero and both
slices fall on character boundaries. It splits a type off exactly when the value starts with
`{` and some prefix holds as many `}` as `{`; the type is read between the first brace and the
last character of the shortest such prefix, as names without surrounding parentheses, split
at `|`, trimmed and non-empty, and the rest is what follows that prefix, without leading
blanks. Any other value has no type and is its own rest. -/
theorem splitType_shortestBalanced (v : String) :
    (v.toList.head? = some '{' → scanBraces 0 (charIndices v) ≠ .underflow) ∧
    splitType? v = some (splitType v) ∧
    ((splitType v).1.isSome ↔ v.toList.head? = some '{' ∧
      ∃ k, 0 < k ∧ k ≤ v.toList.length ∧ Balanced (v.toList.take k)) ∧
    (∀ k, v.toList.head? = some '{' → IsShortestBalanced v.toList k →
      splitType v = (some (typeNames (String.ofList ((v.toList.take (k - 1)).drop 1))),
        trimStartWhite (String.ofList (v.toList.drop k)))) ∧
    ((splitType v).1 = none → splitType v = (none, v)) := by
  by_cases hopen : v.toList.head? = some '{'
  case neg =>
    have hs := splitType?_not_open hopen
    have hv := splitType_eq_of_splitType? hs
    refine ⟨fun h => absurd h hopen, by rw [hs, hv], ?_, fun k h => absurd h hopen,
      fun _ => hv⟩
    simp [hv, hopen]
  case pos =>
    obtain ⟨rest, hv⟩ := List.head?_eq_some_iff.1 hopen
    rcases scanBraces_cases rest 1 1 Nat.one_pos with ⟨k, hk, -, hscan⟩ | ⟨hno, hscan⟩
    · -- the count closes: the type is split off at the shortest balanced prefix
      have hs := splitType?_of_closesFirstAt hv hk
      have hsplit := splitType_eq_of_splitType? hs
      have hshort := isShortestBalanced_open.2 hk
      refine ⟨fun _ => by rw [charIndices_open v hv, hscan]; simp, by rw [hs, hsplit], ?_,
        fun m _ hm => ?_, fun h => by rw [hsplit] at h; cases h⟩
      · simp only [hsplit, Option.isSome_some, hopen, true_and, true_iff]
        exact ⟨k + 2, by omega, hv ▸ hshort.2.1, hv ▸ hshort.2.2.1⟩
      · rw [hv] at hm ⊢
        obtain ⟨j, rfl⟩ := hm.two_le
        obtain rfl := (isShortestBalanced_open.1 hm).unique hk
        rw [hsplit]
        simp
    · -- the count never closes: there is no balanced prefix, and no type
      have hs := splitType?_of_unclosed hv hno
      have hnone := splitType_eq_of_splitType? hs
      refine ⟨fun _ => by rw [charIndices_open v hv, hscan]; simp, by rw [hs, hnone], ?_,
        fun m _ hm => ?_, fun _ => hnone⟩
      · simp only [hnone, Option.isSome_none, Bool.false_eq_true, false_iff, not_and,
          not_exists]
        intro _ m hm _
        rw [hv]
        exact not_balanced_of_unclosed hno hm
      · rw [hv] at hm
        exact absurd hm.2.2.1 (not_balanced_of_unclosed hno hm.1)

/-- In `{A|B} x` the shortest balanced prefix is the type in braces. -/
theorem splitType_unionType :
    IsShortestBalanced "\x7bA|B\x7d x".toList 5 ∧
      splitType "\x7bA|B\x7d x" = (some (typeNames "A|B"), trimStartWhite " x") := by
  have hshort : IsShortestBalanced "\x7bA|B\x7d x".toList 5 := by
    refine ⟨by decide, by decide, by decide, fun j hj hj5 => ?_⟩
    match j, hj, hj5 with
    | 1, _, _ | 2, _, _ | 3, _, _ | 4, _, _ => decide
  refine ⟨hshort, ?_⟩
  rw [(splitType_shortestBalanced "\x7bA|B\x7d x").2.2.2.1 5 (by decide) hshort]
  rfl

end PluginLens.Docs
