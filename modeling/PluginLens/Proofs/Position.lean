import PluginLens.Proofs.Offsets
import PluginLens.Proofs.Dialect
import Mathlib.Data.List.Induction
import Mathlib.Data.List.TakeWhile

/-!
# Line and column of a byte offset

Refusals are reported at a byte offset and at a 1-based line and column, the column counted in
characters. `lineCol` takes the characters before the offset, clamped to the text, or all of
them when the offset falls inside a character, and counts the line feeds among them and the
characters after the last one.

The offsets a text keeps are its character boundaries: the byte lengths of the prefixes of its
characters (`indexOfByte?_split`, `indexOfByte?_eq_some`). So the characters before a
boundary are the prefix that ends there (`charsBefore_of_split`), and the position of a later
boundary is later, on a later line or further along the same one (`lineCol_lt_of_splits`).
The main statement, `lineCol_position`, gathers these facts with the report of a refusal.
-/

namespace PluginLens.Text

/-! ## Bytes of a list of characters -/

theorem utf8ByteSize_ofList_cons (c : Char) (cs : List Char) :
    (String.ofList (c :: cs)).utf8ByteSize = c.utf8Size + (String.ofList cs).utf8ByteSize := by
  have hsplit : String.ofList (c :: cs) = String.ofList [c] ++ String.ofList cs := by
    rw [← String.ofList_append]
    rfl
  rw [hsplit, String.utf8ByteSize_append, ← String.singleton_eq_ofList,
    String.utf8ByteSize_singleton]

theorem utf8ByteSize_ofList_append (p q : List Char) :
    (String.ofList (p ++ q)).utf8ByteSize =
      (String.ofList p).utf8ByteSize + (String.ofList q).utf8ByteSize := by
  rw [String.ofList_append, String.utf8ByteSize_append]

/-- Offset `i` of a run of characters is the byte length of its first `i` characters. -/
theorem getElem?_offsetsFrom (base : Nat) (cs : List Char) {i : Nat} (hi : i ≤ cs.length) :
    (offsetsFrom base cs)[i]? = some (base + (String.ofList (cs.take i)).utf8ByteSize) := by
  induction cs generalizing base i with
  | nil =>
    obtain rfl : i = 0 := by simpa using hi
    simp [offsetsFrom, String.ofList_nil]
  | cons c cs ih =>
    cases i with
    | zero => simp [offsetsFrom, String.ofList_nil]
    | succ j =>
      have hj : j ≤ cs.length := by simpa using hi
      rw [offsetsFrom, List.getElem?_cons_succ, ih _ hj, List.take_succ_cons,
        utf8ByteSize_ofList_cons, Nat.add_assoc]

/-! ## Boundaries are the ends of prefixes -/

namespace Source

variable (s : String)

theorem offsets_getD_of_le {i : Nat} (hi : i ≤ s.toList.length) :
    (ofString s).offsets.getD i 0 = (String.ofList (s.toList.take i)).utf8ByteSize := by
  simp [ofString, Array.getD_eq_getD_getElem?, getElem?_offsetsFrom 0 s.toList hi]

theorem byteSize_ofString : (ofString s).byteSize = s.utf8ByteSize := by
  have hlast := getElem?_offsetsFrom 0 s.toList (Nat.le_refl _)
  rw [List.take_length, String.ofList_toList, Nat.zero_add] at hlast
  simp only [byteSize, ofString, Array.back?_eq_getElem?, List.size_toArray, length_offsetsFrom,
    Nat.add_sub_cancel, List.getElem?_toArray, hlast, Option.getD_some]

theorem utf8ByteSize_le_of_split {p q : List Char} (h : s.toList = p ++ q) :
    (String.ofList p).utf8ByteSize ≤ s.utf8ByteSize := by
  rw [← String.ofList_toList (s := s), h, utf8ByteSize_ofList_append]
  exact Nat.le_add_right _ _

/-- The byte length of a prefix of the characters is a boundary, found at the prefix's
length. -/
theorem indexOfByte?_split {p q : List Char} (h : s.toList = p ++ q) :
    (ofString s).indexOfByte? (String.ofList p).utf8ByteSize = some p.length := by
  have hlen : p.length ≤ s.toList.length := by simp [h]
  have hk : p.length < (ofString s).offsets.size := by
    rw [offsets_size]
    simp only [ofString, List.size_toArray]
    omega
  have hd : (ofString s).offsets.getD p.length 0 = (String.ofList p).utf8ByteSize := by
    rw [offsets_getD_of_le s hlen, h, List.take_left]
  exact findIndex_complete (offsetsSorted_ofString s) hk hd 0 _ (Nat.zero_le _) hk
    (Nat.le_refl _)

/-- What the search finds is a boundary: the byte length of the characters before the index
found. -/
theorem indexOfByte?_eq_some {b i : Nat} (h : (ofString s).indexOfByte? b = some i) :
    (String.ofList (s.toList.take i)).utf8ByteSize = b := by
  obtain ⟨hb, -, hi⟩ := findIndex_sound h
  have hi' : i ≤ s.toList.length := by
    rw [offsets_size] at hi
    simp only [ofString, List.size_toArray] at hi
    omega
  rw [← offsets_getD_of_le s hi', hb]

theorem charsBefore_of_split {b : Nat} {p q : List Char} (h : s.toList = p ++ q)
    (hb : (String.ofList p).utf8ByteSize = min b s.utf8ByteSize) :
    (ofString s).charsBefore b = p := by
  rw [charsBefore, byteSize_ofString, ← hb, indexOfByte?_split s h]
  simp [ofString, h]

theorem charsBefore_of_no_split {b : Nat}
    (hb : ∀ p q, s.toList = p ++ q → (String.ofList p).utf8ByteSize ≠ min b s.utf8ByteSize) :
    (ofString s).charsBefore b = s.toList := by
  unfold charsBefore
  rw [byteSize_ofString]
  cases hi : (ofString s).indexOfByte? (min b s.utf8ByteSize) with
  | none => simp [ofString]
  | some i =>
    exact absurd (indexOfByte?_eq_some s hi) (hb _ _ (List.take_append_drop i _).symm)

end Source

/-! ## Line and column of the characters before an offset -/

/-- `b` is the last line of `cs`: what follows its last line feed, or all of `cs` when it has
none. -/
def IsLastLine (cs b : List Char) : Prop :=
  '\n' ∉ b ∧ (cs = b ∨ ∃ a, cs = a ++ '\n' :: b)

theorem exists_isLastLine (cs : List Char) : ∃ b, IsLastLine cs b := by
  induction cs using List.reverseRecOn with
  | nil => exact ⟨[], List.not_mem_nil, Or.inl rfl⟩
  | append_singleton cs c ih =>
    by_cases hc : c = '\n'
    · exact ⟨[], List.not_mem_nil, Or.inr ⟨cs, by simp [hc]⟩⟩
    · obtain ⟨b, hb, hcs⟩ := ih
      refine ⟨b ++ [c], by simp [hb, Ne.symm hc], ?_⟩
      rcases hcs with rfl | ⟨a, rfl⟩
      · exact Or.inl rfl
      · exact Or.inr ⟨a, by simp⟩

theorem not_newline_of_mem_reverse {b : List Char} (hb : '\n' ∉ b) :
    ∀ c ∈ b.reverse, (c != '\n') = true := by
  intro c hc
  simp only [bne_iff_ne, ne_eq]
  rintro rfl
  exact hb (List.mem_reverse.1 hc)

theorem lineColOf_of_isLastLine {cs b : List Char} (h : IsLastLine cs b) :
    lineColOf cs = (cs.count '\n' + 1, b.length + 1) := by
  obtain ⟨hb, rfl | ⟨a, rfl⟩⟩ := h
  · simp [lineColOf, List.takeWhile_eq_self_iff.2 (not_newline_of_mem_reverse hb)]
  · simp [lineColOf, List.reverse_append,
      List.takeWhile_append_of_pos (not_newline_of_mem_reverse hb)]

/-- Characters appended move the position forward: to a later line when one of them is a line
feed, else further along the same line. -/
theorem lineColOf_lt_append (p : List Char) {r : List Char} (hr : r ≠ []) :
    Prod.Lex (· < ·) (· < ·) (lineColOf p) (lineColOf (p ++ r)) := by
  rw [Prod.lex_def]
  by_cases hn : '\n' ∈ r
  · left
    have hpos := List.count_pos_iff.2 hn
    simp only [lineColOf, List.count_append]
    omega
  · right
    have hzero : r.count '\n' = 0 := List.count_eq_zero.2 hn
    have hlen := List.length_pos_iff.2 hr
    refine ⟨by simp [lineColOf, List.count_append, hzero], ?_⟩
    simp only [lineColOf, List.reverse_append,
      List.takeWhile_append_of_pos (not_newline_of_mem_reverse hn), List.length_append,
      List.length_reverse]
    omega

namespace Source

variable (s : String)

theorem lineCol_of_split {b : Nat} {p q : List Char} (h : s.toList = p ++ q)
    (hb : (String.ofList p).utf8ByteSize = min b s.utf8ByteSize) :
    lineCol (ofString s) b = lineColOf p := by
  rw [lineCol, charsBefore_of_split s h hb]

/-- Of two boundaries, the later one has the later position. -/
theorem lineCol_lt_of_splits {p₁ q₁ p₂ q₂ : List Char} (h₁ : s.toList = p₁ ++ q₁)
    (h₂ : s.toList = p₂ ++ q₂)
    (hlt : (String.ofList p₁).utf8ByteSize < (String.ofList p₂).utf8ByteSize) :
    Prod.Lex (· < ·) (· < ·) (lineCol (ofString s) (String.ofList p₁).utf8ByteSize)
      (lineCol (ofString s) (String.ofList p₂).utf8ByteSize) := by
  have hle : p₁.length ≤ p₂.length := by
    refine Nat.le_of_not_lt fun hgt => ?_
    obtain ⟨r, hr⟩ :=
      List.prefix_of_prefix_length_le ⟨q₂, h₂.symm⟩ ⟨q₁, h₁.symm⟩ (Nat.le_of_lt hgt)
    rw [← hr, utf8ByteSize_ofList_append] at hlt
    omega
  obtain ⟨r, hr⟩ :=
    List.prefix_of_prefix_length_le ⟨q₁, h₁.symm⟩ ⟨q₂, h₂.symm⟩ hle
  have hne : r ≠ [] := by
    rintro rfl
    rw [List.append_nil] at hr
    rw [hr] at hlt
    exact Nat.lt_irrefl _ hlt
  rw [lineCol_of_split s h₁ (Nat.min_eq_left (utf8ByteSize_le_of_split s h₁)).symm,
    lineCol_of_split s h₂ (Nat.min_eq_left (utf8ByteSize_le_of_split s h₂)).symm, ← hr]
  exact lineColOf_lt_append p₁ hne

end Source

end PluginLens.Text

namespace PluginLens

open PluginLens.Text

/-- Where a refusal in a text `s` is reported. The position of an offset counts the
characters before it, clamped to the text, when it ends on a character boundary, and all the
characters when it falls inside one: the line is one more than their line feeds, the column one
more than the characters after the last of them. Between boundaries the position grows
strictly, by lines and then by columns, so no two boundaries share one. A refusal records the
clamped offset with that line and column. -/
theorem lineCol_position (s : String) :
    (∀ o p q, s.toList = p ++ q → (String.ofList p).utf8ByteSize = min o s.utf8ByteSize →
      ∃ b, IsLastLine p b ∧
        lineCol (Source.ofString s) o = (p.count '\n' + 1, b.length + 1)) ∧
    (∀ o, (∀ p q, s.toList = p ++ q → (String.ofList p).utf8ByteSize ≠ min o s.utf8ByteSize) →
      ∃ b, IsLastLine s.toList b ∧
        lineCol (Source.ofString s) o = (s.toList.count '\n' + 1, b.length + 1)) ∧
    (∀ p₁ q₁ p₂ q₂, s.toList = p₁ ++ q₁ → s.toList = p₂ ++ q₂ →
      (String.ofList p₁).utf8ByteSize < (String.ofList p₂).utf8ByteSize →
      Prod.Lex (· < ·) (· < ·) (lineCol (Source.ofString s) (String.ofList p₁).utf8ByteSize)
        (lineCol (Source.ofString s) (String.ofList p₂).utf8ByteSize)) ∧
    (∀ p₁ q₁ p₂ q₂, s.toList = p₁ ++ q₁ → s.toList = p₂ ++ q₂ →
      lineCol (Source.ofString s) (String.ofList p₁).utf8ByteSize =
        lineCol (Source.ofString s) (String.ofList p₂).utf8ByteSize →
      (String.ofList p₁).utf8ByteSize = (String.ofList p₂).utf8ByteSize) ∧
    (∀ m o, InspectError.atOffset m o (Source.ofString s) =
      .parse m (min o s.utf8ByteSize) (lineCol (Source.ofString s) o).1
        (lineCol (Source.ofString s) o).2) := by
  refine ⟨?before, ?inside, ?increasing, ?injective, ?reported⟩
  case before =>
    intro o p q h hb
    obtain ⟨b, hlast⟩ := exists_isLastLine p
    exact ⟨b, hlast, by rw [Source.lineCol_of_split s h hb, lineColOf_of_isLastLine hlast]⟩
  case inside =>
    intro o hb
    obtain ⟨b, hlast⟩ := exists_isLastLine s.toList
    refine ⟨b, hlast, ?_⟩
    rw [lineCol, Source.charsBefore_of_no_split s hb, lineColOf_of_isLastLine hlast]
  case increasing =>
    exact fun p₁ q₁ p₂ q₂ h₁ h₂ hlt => Source.lineCol_lt_of_splits s h₁ h₂ hlt
  case injective =>
    intro p₁ q₁ p₂ q₂ h₁ h₂ heq
    have irrefl : ∀ x : Nat × Nat, ¬Prod.Lex (· < ·) (· < ·) x x := by
      intro x hx
      rw [Prod.lex_def] at hx
      omega
    rcases Nat.lt_trichotomy (String.ofList p₁).utf8ByteSize (String.ofList p₂).utf8ByteSize
      with hlt | heq' | hgt
    · exact absurd (heq ▸ Source.lineCol_lt_of_splits s h₁ h₂ hlt) (irrefl _)
    · exact heq'
    · exact absurd (heq ▸ Source.lineCol_lt_of_splits s h₂ h₁ hgt) (irrefl _)
  case reported =>
    intro m o
    rw [atOffset_eq_parse, Source.byteSize_ofString]

/-- `let b = {;` refused at byte 20 of a two-line text: line 2, after the nine characters of
the second line; byte 10, the end of the first line, comes earlier; byte 1 of `é` falls inside
the character, so the whole text counts as before it; and byte 20 shares its position with
itself only. -/
theorem lineCol_position_samples :
    (("let a = 1;\nlet b = \x7b;\n".toList = "let a = 1;\nlet b = \x7b".toList ++ ";\n".toList ∧
        (String.ofList "let a = 1;\nlet b = \x7b".toList).utf8ByteSize =
          min 20 "let a = 1;\nlet b = \x7b;\n".utf8ByteSize) ∧
      ∃ b, IsLastLine "let a = 1;\nlet b = \x7b".toList b ∧
        lineCol (Source.ofString "let a = 1;\nlet b = \x7b;\n") 20 =
          ("let a = 1;\nlet b = \x7b".toList.count '\n' + 1, b.length + 1)) ∧
    (("let a = 1;\nlet b = \x7b;\n".toList = "let a = 1;".toList ++ "\nlet b = \x7b;\n".toList ∧
        (String.ofList "let a = 1;".toList).utf8ByteSize <
          (String.ofList "let a = 1;\nlet b = \x7b".toList).utf8ByteSize) ∧
      Prod.Lex (· < ·) (· < ·)
        (lineCol (Source.ofString "let a = 1;\nlet b = \x7b;\n")
          (String.ofList "let a = 1;".toList).utf8ByteSize)
        (lineCol (Source.ofString "let a = 1;\nlet b = \x7b;\n")
          (String.ofList "let a = 1;\nlet b = \x7b".toList).utf8ByteSize)) ∧
    ((∀ p q, "é".toList = p ++ q → (String.ofList p).utf8ByteSize ≠ min 1 "é".utf8ByteSize) ∧
      ∃ b, IsLastLine "é".toList b ∧
        lineCol (Source.ofString "é") 1 = ("é".toList.count '\n' + 1, b.length + 1)) ∧
    (("let a = 1;\nlet b = \x7b;\n".toList = "let a = 1;\nlet b = \x7b".toList ++ ";\n".toList ∧
        lineCol (Source.ofString "let a = 1;\nlet b = \x7b;\n")
            (String.ofList "let a = 1;\nlet b = \x7b".toList).utf8ByteSize =
          lineCol (Source.ofString "let a = 1;\nlet b = \x7b;\n")
            (String.ofList "let a = 1;\nlet b = \x7b".toList).utf8ByteSize) ∧
      (String.ofList "let a = 1;\nlet b = \x7b".toList).utf8ByteSize =
        (String.ofList "let a = 1;\nlet b = \x7b".toList).utf8ByteSize) := by
  have hsplit : "let a = 1;\nlet b = \x7b;\n".toList =
      "let a = 1;\nlet b = \x7b".toList ++ ";\n".toList := by decide
  have hbytes : (String.ofList "let a = 1;\nlet b = \x7b".toList).utf8ByteSize =
      min 20 "let a = 1;\nlet b = \x7b;\n".utf8ByteSize := by decide
  have hfirst : "let a = 1;\nlet b = \x7b;\n".toList =
      "let a = 1;".toList ++ "\nlet b = \x7b;\n".toList := by decide
  have hearlier : (String.ofList "let a = 1;".toList).utf8ByteSize <
      (String.ofList "let a = 1;\nlet b = \x7b".toList).utf8ByteSize := by decide
  have hinside : ∀ p q, "é".toList = p ++ q →
      (String.ofList p).utf8ByteSize ≠ min 1 "é".utf8ByteSize := by
    intro p q h
    have hone : p ++ q = ['é'] := h ▸ by decide
    rcases List.append_eq_singleton_iff.1 hone with ⟨rfl, -⟩ | ⟨rfl, -⟩ <;> decide
  exact ⟨⟨⟨hsplit, hbytes⟩, (lineCol_position _).1 20 _ _ hsplit hbytes⟩,
    ⟨⟨hfirst, hearlier⟩, (lineCol_position _).2.2.1 _ _ _ _ hfirst hsplit hearlier⟩,
    ⟨hinside, (lineCol_position _).2.1 1 hinside⟩,
    ⟨⟨hsplit, rfl⟩, (lineCol_position _).2.2.2.1 _ _ _ _ hsplit hsplit rfl⟩⟩

end PluginLens
