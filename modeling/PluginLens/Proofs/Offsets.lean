import PluginLens.Text.Source

/-!
# Character boundaries and slices

A `Source` keeps the byte offset of each character, and the byte length last. Those offsets are
the character boundaries of the text: they increase strictly, since every character takes at
least one byte, and they are all within the text. `indexOfByte?` looks a boundary up by binary
search, and finds every boundary; `slice?` therefore reads every range between two boundaries
in order, so a range that starts and stops on boundaries never falls back to the empty text.
Conversely, a range that `slice?` reads is in order, and holds every character that starts
inside it (`charAt_mem_slice?`).
-/

namespace PluginLens.Text

/-- Whether byte `b` is a character boundary of the text: where one of its characters starts,
or its end. -/
def Source.isBoundary (src : Source) (b : Nat) : Bool := src.offsets.contains b

theorem le_of_mem_offsetsFrom {base x : Nat} {cs : List Char} (h : x ∈ offsetsFrom base cs) :
    base ≤ x := by
  induction cs generalizing base with
  | nil => simp [offsetsFrom] at h; omega
  | cons c cs ih =>
    simp only [offsetsFrom, List.mem_cons] at h
    rcases h with rfl | h
    · exact Nat.le_refl _
    · have := ih h
      omega

theorem offsetsFrom_pairwise (base : Nat) (cs : List Char) :
    (offsetsFrom base cs).Pairwise (· < ·) := by
  induction cs generalizing base with
  | nil => simp [offsetsFrom]
  | cons c cs ih =>
    simp only [offsetsFrom, List.pairwise_cons]
    refine ⟨fun x hx => ?_, ih _⟩
    have := le_of_mem_offsetsFrom hx
    have := c.utf8Size_pos
    omega

/-- Offsets of `offs` increase strictly with their index. -/
def OffsetsSorted (offs : Array Nat) : Prop :=
  ∀ i j, i < j → j < offs.size → offs.getD i 0 < offs.getD j 0

theorem offsetsSorted_ofString (s : String) : OffsetsSorted (Source.ofString s).offsets := by
  intro i j hij hj
  have hp := List.pairwise_iff_getElem.1 (offsetsFrom_pairwise 0 s.toList)
  simp only [Source.ofString, List.size_toArray] at hj
  simp only [Source.ofString, Array.getD_eq_getD_getElem?, List.getElem?_toArray,
    List.getElem?_eq_getElem hj, List.getElem?_eq_getElem (Nat.lt_trans hij hj), Option.getD_some]
  exact hp i j (Nat.lt_trans hij hj) hj hij

/-- What binary search finds is where the offset stands. -/
theorem findIndex_sound {offs : Array Nat} {b lo hi i : Nat}
    (h : Source.findIndex offs b lo hi = some i) : offs.getD i 0 = b ∧ lo ≤ i ∧ i < hi := by
  fun_induction Source.findIndex offs b lo hi with
  | case1 lo hi hlt mid v heq =>
    simp only [Option.some.injEq] at h
    subst h
    exact ⟨beq_iff_eq.1 heq, by omega, by omega⟩
  | case2 lo hi hlt mid v hne hv ih =>
    have := ih h
    exact ⟨this.1, by omega, this.2.2⟩
  | case3 lo hi hlt mid v hne hv ih =>
    have := ih h
    exact ⟨this.1, this.2.1, by omega⟩
  | case4 lo hi hge => simp at h

/-- Binary search over strictly increasing offsets finds every offset in its range. -/
theorem findIndex_complete {offs : Array Nat} (hs : OffsetsSorted offs) {b k : Nat}
    (hk : k < offs.size) (hb : offs.getD k 0 = b) :
    ∀ lo hi, lo ≤ k → k < hi → hi ≤ offs.size → Source.findIndex offs b lo hi = some k := by
  intro lo hi
  fun_induction Source.findIndex offs b lo hi with
  | case1 lo hi hlt mid v heq =>
    intro hlo hhi hsize
    have hv : offs.getD mid 0 = offs.getD k 0 := by rw [hb]; exact beq_iff_eq.1 heq
    have hmid : mid < offs.size := by omega
    rcases Nat.lt_trichotomy mid k with hlt' | heq' | hgt
    · exact absurd hv (Nat.ne_of_lt (hs mid k hlt' hk))
    · exact congrArg some heq'
    · exact absurd hv.symm (Nat.ne_of_lt (hs k mid hgt hmid))
  | case2 lo hi hlt mid v hne hv ih =>
    intro hlo hhi hsize
    have hmk : mid < k := by
      rcases Nat.lt_or_ge mid k with h | h
      · exact h
      · have hle : offs.getD k 0 ≤ offs.getD mid 0 := by
          rcases Nat.eq_or_lt_of_le h with h | h
          · exact Nat.le_of_eq (by rw [h])
          · exact Nat.le_of_lt (hs k mid h (by omega))
        have : offs.getD mid 0 < offs.getD k 0 := by rw [hb]; exact hv
        omega
    exact ih (by omega) hhi hsize
  | case3 lo hi hlt mid v hne hv ih =>
    intro hlo hhi hsize
    have hkm : k < mid := by
      rcases Nat.lt_or_ge k mid with h | h
      · exact h
      · have hle : offs.getD mid 0 ≤ offs.getD k 0 := by
          rcases Nat.eq_or_lt_of_le h with h | h
          · exact Nat.le_of_eq (by rw [h])
          · exact Nat.le_of_lt (hs mid k h hk)
        have hne' : offs.getD mid 0 ≠ offs.getD k 0 := by
          rw [hb]; exact fun h => hne (beq_iff_eq.2 h)
        have : offs.getD k 0 ≤ offs.getD mid 0 := by rw [hb]; exact Nat.le_of_not_lt hv
        omega
    exact ih hlo hkm (by omega)
  | case4 lo hi hge =>
    intro hlo hhi _
    omega

namespace Source

variable (s : String)

theorem indexOfByte?_of_isBoundary {b : Nat} (h : (ofString s).isBoundary b = true) :
    ∃ i, (ofString s).indexOfByte? b = some i ∧ (ofString s).offsets.getD i 0 = b ∧
      i < (ofString s).offsets.size := by
  obtain ⟨k, hk, hkb⟩ := Array.getElem_of_mem (Array.contains_iff_mem.1 h)
  have hd : (ofString s).offsets.getD k 0 = b := by simp [Array.getD_eq_getD_getElem?, hk, hkb]
  refine ⟨k, ?_, hd, hk⟩
  exact findIndex_complete (offsetsSorted_ofString s) hk hd 0 _ (Nat.zero_le _) hk (Nat.le_refl _)

theorem le_byteSize_of_isBoundary {b : Nat} (h : (ofString s).isBoundary b = true) :
    b ≤ (ofString s).byteSize := by
  obtain ⟨k, -, hkb, hk⟩ := indexOfByte?_of_isBoundary s h
  have hlast : (ofString s).byteSize =
      (ofString s).offsets.getD ((ofString s).offsets.size - 1) 0 := by
    simp [byteSize, Array.back?_eq_getElem?]
  rw [hlast, ← hkb]
  rcases Nat.lt_or_ge k ((ofString s).offsets.size - 1) with hlt | hge
  · exact Nat.le_of_lt (offsetsSorted_ofString s _ _ hlt (by omega))
  · exact Nat.le_of_eq (by rw [show k = (ofString s).offsets.size - 1 by omega])

/-- A range from a boundary to a later boundary is read as it is, never as the empty
fallback. -/
theorem slice?_of_isBoundary {a b : Nat} (ha : (ofString s).isBoundary a = true)
    (hb : (ofString s).isBoundary b = true) (hab : a ≤ b) :
    (ofString s).slice? a b = some ((ofString s).slice a b) := by
  obtain ⟨i, hi, hia, hsi⟩ := indexOfByte?_of_isBoundary s ha
  obtain ⟨j, hj, hjb, hsj⟩ := indexOfByte?_of_isBoundary s hb
  -- the offsets increase strictly, so the indices are in the order of the bytes
  have hij : i ≤ j := by
    rcases Nat.lt_or_ge j i with h | h
    · have := offsetsSorted_ofString s j i h hsi
      omega
    · exact h
  simp [slice, slice?, hi, hj, hij]

theorem length_offsetsFrom (base : Nat) (cs : List Char) :
    (offsetsFrom base cs).length = cs.length + 1 := by
  induction cs generalizing base with
  | nil => rfl
  | cons c cs ih => simp [offsetsFrom, ih]

theorem offsets_size : (ofString s).offsets.size = (ofString s).chars.size + 1 := by
  simp [ofString, length_offsetsFrom]

/-- A range that `slice?` reads runs between the starts of two characters, in order, and is
the text of the characters between them. -/
theorem slice?_eq_some {a b : Nat} {g : String} (hg : (ofString s).slice? a b = some g) :
    ∃ i j, (ofString s).indexOfByte? a = some i ∧ (ofString s).indexOfByte? b = some j ∧
      i ≤ j ∧ g = (ofString s).charsBetween i j := by
  unfold slice? at hg
  split at hg
  · rename_i i j hi hj
    split at hg
    · exact ⟨i, j, hi, hj, ‹_›, (Option.some.inj hg).symm⟩
    · cases hg
  · cases hg

theorem le_of_slice? {a b : Nat} {g : String} (hg : (ofString s).slice? a b = some g) :
    a ≤ b := by
  obtain ⟨i, j, hi, hj, hij, -⟩ := slice?_eq_some s hg
  obtain ⟨hia, -, -⟩ := findIndex_sound hi
  obtain ⟨hjb, -, hj⟩ := findIndex_sound hj
  rw [← hia, ← hjb]
  rcases Nat.eq_or_lt_of_le hij with rfl | hlt
  · exact Nat.le_refl _
  · exact Nat.le_of_lt (offsetsSorted_ofString s i j hlt hj)

/-- A character that starts inside a range that `slice?` reads is one of the range's
characters. -/
theorem charAt_mem_slice? {a b x k : Nat} {g : String} (hg : (ofString s).slice? a b = some g)
    (hk : (ofString s).indexOfByte? x = some k) (hax : a ≤ x) (hxb : x < b) :
    (ofString s).charAt k ∈ g.toList := by
  obtain ⟨i, j, hi, hj, -, rfl⟩ := slice?_eq_some s hg
  obtain ⟨hia, -, hi⟩ := findIndex_sound hi
  obtain ⟨hjb, -, hj⟩ := findIndex_sound hj
  obtain ⟨hkx, -, hk⟩ := findIndex_sound hk
  have hik : i ≤ k := by
    refine Nat.le_of_not_lt fun hki => ?_
    have := offsetsSorted_ofString s k i hki hi
    omega
  have hkj : k < j := by
    refine Nat.lt_of_not_le fun hjk => ?_
    rcases Nat.eq_or_lt_of_le hjk with rfl | hlt
    · omega
    · have := offsetsSorted_ofString s j k hlt hk
      omega
  have hsize := offsets_size s
  have hkc : k < (ofString s).chars.size := by omega
  have hmem : (ofString s).chars[k] ∈ ((ofString s).chars.extract i j).toList := by
    rw [Array.mem_toList_iff, Array.mem_iff_getElem]
    exact ⟨k - i, by simp; omega, by simp [Array.getElem_extract, Nat.add_sub_cancel' hik]⟩
  simpa [charsBetween, charAt, Array.getD_eq_getD_getElem?, hkc] using hmem

end Source

end PluginLens.Text
