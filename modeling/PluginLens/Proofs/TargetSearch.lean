import PluginLens.Docs.Doclet
import Mathlib.Data.List.Forall2

/-!
# Which target a documentation block documents

A block documents the first target, in targets sorted by start, that starts at or after the
block's end, when only blanks lie between. `targetAfter` finds that target by binary search
(`partitionPoint`), which means something only when the predicate it looks for holds of a
prefix of the list. Where it does, the search lands on the first element that fails the
predicate (`partitionPoint_eq_findIdx`), so on targets sorted by start the search is the
linear scan for the first target at or after the block (`targetAfter_eq_some_iff`).

The targets of a tree are sorted by start stably: targets at one start keep the order of the
walk that found them (`find?_key_mergeSort`). The scan over the sorted targets therefore picks,
of the targets at the least start at or after the block, the one the walk met first
(`targetAfter_targets_eq_some_iff`). Each documentation block gives at most one doclet, and
the doclets keep the order of the blocks (`docletsOfTree_blocks`).
-/

namespace PluginLens.Docs

open PluginLens.Text PluginLens.Syntax

/-! ## Binary search for the first element failing a predicate -/

section PartitionPoint

variable {α : Type} {p : α → Bool} {xs : List α}

/-- Where `p` holds of a prefix of `xs` only, an element satisfies `p` exactly when it stands
before the first element that fails `p`. -/
theorem any_getElem?_iff_lt_findIdx (hp : xs.Pairwise fun a b => p b → p a) {i : Nat}
    (hi : i < xs.length) :
    (xs[i]?).any p = true ↔ i < xs.findIdx (fun x => !p x) := by
  rw [List.getElem?_eq_getElem hi, Option.any_some]
  constructor
  · intro hpi
    refine Nat.lt_of_not_le fun hk => ?_
    have hkl : xs.findIdx (fun x => !p x) < xs.length := Nat.lt_of_le_of_lt hk hi
    have hfail : (!p xs[xs.findIdx (fun x => !p x)]) = true :=
      List.findIdx_getElem (p := fun x => !p x) (w := hkl)
    rcases Nat.eq_or_lt_of_le hk with heq | hlt
    · simp [heq, hpi] at hfail
    · have hpk := List.pairwise_iff_getElem.1 hp _ _ hkl hi hlt hpi
      simp [hpk] at hfail
  · intro hlt
    simpa using List.not_of_lt_findIdx hlt

/-- The search's window `[base, base + size)` holds the first element failing `p`, or stands
just before it; halving the window keeps that, so the last element left is that element or the
one just before it. -/
theorem partitionPoint_go_window (hp : xs.Pairwise fun a b => p b → p a) (size base : Nat)
    (hsize : 1 ≤ size) (hlen : base + size ≤ xs.length)
    (hlo : base ≤ xs.findIdx (fun x => !p x)) (hhi : xs.findIdx (fun x => !p x) ≤ base + size) :
    partitionPoint.go p xs size base < xs.length ∧
      partitionPoint.go p xs size base ≤ xs.findIdx (fun x => !p x) ∧
      xs.findIdx (fun x => !p x) ≤ partitionPoint.go p xs size base + 1 := by
  fun_induction partitionPoint.go p xs size base with
  | case1 size base hle => exact ⟨by omega, hlo, by omega⟩
  | case2 size base hgt half mid ih =>
    have hhalf : half = size / 2 := rfl
    have hmidv : mid = base + half := rfl
    have hmid : mid < xs.length := by omega
    by_cases hm : (xs[mid]?).any p = true
    · -- the middle element satisfies `p`, so the first failing one lies above it
      have hk := (any_getElem?_iff_lt_findIdx hp hmid).1 hm
      rw [dif_pos hm] at ih
      rw [if_pos hm]
      exact ih (by omega) (by omega) (by omega) (by omega)
    · -- the middle element fails `p`, so the first failing one is at or below it
      have hk : xs.findIdx (fun x => !p x) ≤ mid :=
        Nat.le_of_not_lt fun h => hm ((any_getElem?_iff_lt_findIdx hp hmid).2 h)
      rw [dif_neg hm] at ih
      rw [if_neg hm]
      exact ih (by omega) (by omega) hlo (by omega)

/-- Where `p` holds of a prefix of `xs` only, the binary search finds the first element that
fails `p`, or the length when every element satisfies it. -/
theorem partitionPoint_eq_findIdx (hp : xs.Pairwise fun a b => p b → p a) :
    partitionPoint p xs = xs.findIdx (fun x => !p x) := by
  unfold partitionPoint
  split
  · rename_i hnil
    simp [List.isEmpty_iff.1 hnil]
  · rename_i hnil
    have hlen : 1 ≤ xs.length := by
      cases xs with
      | nil => simp at hnil
      | cons x xs => simp
    obtain ⟨hb, hlo, hhi⟩ := partitionPoint_go_window hp xs.length 0 hlen (by omega)
      (Nat.zero_le _) (by rw [Nat.zero_add]; exact List.findIdx_le_length)
    dsimp only
    split
    · rename_i hany
      have := (any_getElem?_iff_lt_findIdx hp hb).1 hany
      omega
    · rename_i hany
      have : ¬partitionPoint.go p xs xs.length 0 < xs.findIdx (fun x => !p x) :=
        fun h => hany ((any_getElem?_iff_lt_findIdx hp hb).2 h)
      omega

/-- Where `p` holds of a prefix of `xs` only, the binary search stands on the first element
that fails `p`. -/
theorem getElem?_partitionPoint (hp : xs.Pairwise fun a b => p b → p a) :
    xs[partitionPoint p xs]? = xs.find? (fun x => !p x) := by
  rw [partitionPoint_eq_findIdx hp, List.find?_eq_getElem?_findIdx]

end PartitionPoint

/-! ## The target after a block, in sorted targets -/

section SortedTargets

variable {src : Source} {ts : List DocTarget}

/-- On targets sorted by start, the search from `e` stands on the first target at or after
`e`. -/
theorem getElem?_partitionPoint_start (hs : ts.Pairwise fun a b => a.start ≤ b.start)
    (e : Nat) :
    ts[partitionPoint (·.start < e) ts]? = ts.find? (·.start ≥ e) := by
  have hp : ts.Pairwise fun a b => decide (b.start < e) = true → decide (a.start < e) = true :=
    hs.imp fun hab hb => by
      simp only [decide_eq_true_eq] at hb ⊢
      omega
  rw [getElem?_partitionPoint hp]
  congr 1
  funext t
  simp only [ge_iff_le, ← Nat.not_lt, decide_not]

/-- On targets sorted by start, a block ending at `e` documents `t` exactly when `t` is the
first target at or after `e` and the text between is a range of blanks. -/
theorem targetAfter_eq_some_iff (hs : ts.Pairwise fun a b => a.start ≤ b.start)
    {e : Nat} {t : DocTarget} :
    targetAfter src ts e = some t ↔
      ts.find? (·.start ≥ e) = some t ∧
        ∃ gap, src.slice? e t.start = some gap ∧ (trimWhite gap).isEmpty = true := by
  unfold targetAfter
  rw [getElem?_partitionPoint_start hs]
  cases hf : ts.find? (·.start ≥ e) with
  | none => simp
  | some u =>
    dsimp only
    cases hg : src.slice? e u.start with
    | none =>
      simp only [Option.some.injEq]
      constructor
      · intro h
        cases h
      · rintro ⟨rfl, gap, hgap, -⟩
        simp [hg] at hgap
    | some gap =>
      by_cases hw : (trimWhite gap).isEmpty = true
      · simp only [hw, if_true, Option.some.injEq]
        constructor
        · rintro rfl
          exact ⟨rfl, gap, hg, hw⟩
        · rintro ⟨rfl, -⟩
          rfl
      · simp only [hw, Option.some.injEq]
        constructor
        · intro h
          cases h
        · rintro ⟨rfl, gap', hgap, hw'⟩
          rw [hg, Option.some.injEq] at hgap
          exact absurd (hgap ▸ hw') hw

end SortedTargets

/-! ## Searching a stably sorted list -/

section SortedSearch

variable {α : Type} (key : α → Nat)

/-- In a list sorted by key, the first element with key at least `a` is the first one at the
key of `x`, when `x` is in the list at or after `a` and no key lies between `a` and `x`'s. -/
theorem find?_ge_eq_find?_key {S : List α} {x : α} {a : Nat}
    (hs : S.Pairwise fun u v => key u ≤ key v) (hx : x ∈ S) (hax : a ≤ key x)
    (hge : ∀ y ∈ S, a ≤ key y → key x ≤ key y) :
    S.find? (fun y => decide (key y ≥ a)) = S.find? (fun y => key y == key x) := by
  induction S with
  | nil => cases hx
  | cons y S ih =>
    rw [List.pairwise_cons] at hs
    by_cases hy : a ≤ key y
    · have hle : key x ≤ key y := hge y List.mem_cons_self hy
      have hge' : key y ≤ key x := by
        rcases List.mem_cons.1 hx with rfl | hx'
        · exact Nat.le_refl _
        · exact hs.1 x hx'
      rw [List.find?_cons_of_pos (by simpa using hy),
        List.find?_cons_of_pos (by simpa using Nat.le_antisymm hge' hle)]
    · have hne : key y ≠ key x := fun h => hy (h ▸ hax)
      have hx' : x ∈ S := by
        rcases List.mem_cons.1 hx with rfl | hx'
        · exact absurd hax hy
        · exact hx'
      rw [List.find?_cons_of_neg (by simpa using hy), List.find?_cons_of_neg (by simpa using hne)]
      exact ih hs.2 hx' fun z hz => hge z (List.mem_cons_of_mem y hz)

theorem mergeSort_key_trans (u v w : α) (huv : decide (key u ≤ key v) = true)
    (hvw : decide (key v ≤ key w) = true) : decide (key u ≤ key w) = true := by
  simp only [decide_eq_true_eq] at *
  exact Nat.le_trans huv hvw

theorem mergeSort_key_total (u v : α) :
    (decide (key u ≤ key v) || decide (key v ≤ key u)) = true := by
  simpa using Nat.le_total (key u) (key v)

theorem pairwise_mergeSort_key (L : List α) :
    (L.mergeSort fun u v => decide (key u ≤ key v)).Pairwise fun u v => key u ≤ key v := by
  simpa using List.pairwise_mergeSort (mergeSort_key_trans key) (mergeSort_key_total key) L

/-- Sorting by key is stable: the elements at one key keep their order, so the first of them
is the same before and after sorting. -/
theorem find?_key_mergeSort (L : List α) (k : Nat) :
    (L.mergeSort fun u v => decide (key u ≤ key v)).find? (fun y => key y == k) =
      L.find? (fun y => key y == k) := by
  set S := L.mergeSort fun u v => decide (key u ≤ key v)
  have hperm : S.Perm L := List.mergeSort_perm L _
  -- the elements at key `k` are pairwise in order, so sorting keeps them as a sublist
  have hsub : (L.filter (fun y => key y == k)).Sublist S := by
    refine List.sublist_mergeSort (mergeSort_key_trans key) (mergeSort_key_total key) ?_
      List.filter_sublist
    refine List.pairwise_of_forall_mem_list fun u hu v hv => ?_
    simp only [List.mem_filter, beq_iff_eq] at hu hv
    simp [hu.2, hv.2]
  have hfilter : S.filter (fun y => key y == k) = L.filter (fun y => key y == k) := by
    have h1 : (L.filter (fun y => key y == k)).Sublist (S.filter (fun y => key y == k)) := by
      simpa [List.filter_filter] using hsub.filter (fun y => key y == k)
    exact (h1.eq_of_length (hperm.filter _).length_eq.symm).symm
  rw [← List.head?_filter, hfilter, List.head?_filter]

/-- In a list sorted stably by key, the first element at key `a` or above is `t` exactly when
`t` is, in the unsorted list, the first element at its own key, that key is at least `a`, and
no element lies at a key from `a` up to below `t`'s. -/
theorem find?_mergeSort_ge_eq_some {L : List α} {a : Nat} {t : α} :
    (L.mergeSort fun u v => decide (key u ≤ key v)).find? (fun y => decide (key y ≥ a)) =
        some t ↔
      L.find? (fun y => key y == key t) = some t ∧ a ≤ key t ∧
        ∀ u ∈ L, a ≤ key u → key t ≤ key u := by
  set S := L.mergeSort fun u v => decide (key u ≤ key v)
  have hperm : S.Perm L := List.mergeSort_perm L _
  have hsorted : S.Pairwise fun u v => key u ≤ key v := pairwise_mergeSort_key key L
  constructor
  · intro h
    obtain ⟨hat, as, bs, hS, has⟩ := List.find?_eq_some_iff_append.1 h
    have hat : a ≤ key t := by simpa using hat
    have hmin : ∀ u ∈ S, a ≤ key u → key t ≤ key u := by
      intro u hu hau
      rw [hS] at hu hsorted
      rcases List.mem_append.1 hu with hu | hu
      · have := has u hu
        simp only [Bool.not_eq_true', decide_eq_false_iff_not] at this
        omega
      · rcases List.mem_cons.1 hu with rfl | hu
        · exact Nat.le_refl _
        · exact (List.pairwise_cons.1 (List.pairwise_append.1 hsorted).2.1).1 u hu
    have htS : t ∈ S := List.mem_of_find?_eq_some h
    refine ⟨?_, hat, fun u hu => hmin u (hperm.mem_iff.2 hu)⟩
    rw [← find?_key_mergeSort key, ← find?_ge_eq_find?_key key hsorted htS hat hmin, h]
  · rintro ⟨hfirst, hat, hmin⟩
    have htS : t ∈ S := hperm.mem_iff.2 (List.mem_of_find?_eq_some hfirst)
    rw [find?_ge_eq_find?_key key hsorted htS hat fun u hu => hmin u (hperm.mem_iff.1 hu),
      find?_key_mergeSort key, hfirst]

/-- Sorting a list by key, stably, and searching it for the first element at or after `a`
finds `x` when `x` is the first element at its key, at or after `a`, and no key lies between
`a` and `x`'s. -/
theorem find?_mergeSort_eq {A B : List α} {x : α} {a : Nat} (hax : a ≤ key x)
    (hA : ∀ y ∈ A, key y ≠ key x)
    (hgap : ∀ y ∈ A ++ x :: B, key y < a ∨ key x ≤ key y) :
    ((A ++ x :: B).mergeSort fun u v => decide (key u ≤ key v)).find?
      (fun y => decide (key y ≥ a)) = some x := by
  refine (find?_mergeSort_ge_eq_some key).2 ⟨?_, hax, fun u hu hau => ?_⟩
  · have hA' : A.find? (fun y => key y == key x) = none :=
      List.find?_eq_none.2 fun y hy => by simpa using hA y hy
    simp [List.find?_append, hA']
  · exact (hgap u hu).resolve_left (Nat.not_lt.2 hau)

end SortedSearch

/-! ## The targets of a tree and the doclets of its blocks -/

theorem targets_sorted (src : Source) (root : Node) :
    (targets src root).Pairwise fun a b => a.start ≤ b.start :=
  pairwise_mergeSort_key DocTarget.start _

/-- A block documents, of the targets at the least start at or after its end, the one the walk
over the tree met first, when only blanks lie between. -/
theorem targetAfter_targets_eq_some_iff {src : Source} {root : Node} {e : Nat}
    {t : DocTarget} :
    targetAfter src (targets src root) e = some t ↔
      (targetsOf src "" none root).find? (·.start == t.start) = some t ∧ e ≤ t.start ∧
        (∀ u ∈ targetsOf src "" none root, e ≤ u.start → t.start ≤ u.start) ∧
        ∃ gap, src.slice? e t.start = some gap ∧ (trimWhite gap).isEmpty = true := by
  rw [targetAfter_eq_some_iff (targets_sorted src root), targets,
    find?_mergeSort_ge_eq_some DocTarget.start, and_assoc, and_assoc]

/-- Keeping the results of `f` along a list answers, one result each and in order, the
elements of a sublist. -/
theorem filterMap_sublist_forall₂ {α β : Type} (f : α → Option β) (l : List α) :
    ∃ bs, bs.Sublist l ∧ List.Forall₂ (fun a b => f a = some b) bs (l.filterMap f) := by
  induction l with
  | nil => exact ⟨[], List.Sublist.slnil, List.Forall₂.nil⟩
  | cons a l ih =>
    obtain ⟨bs, hsub, hall⟩ := ih
    cases ha : f a with
    | none => exact ⟨bs, hsub.cons a, by simpa [List.filterMap_cons, ha] using hall⟩
    | some b =>
      refine ⟨a :: bs, hsub.cons_cons a, ?_⟩
      rw [List.filterMap_cons, ha]
      exact List.Forall₂.cons ha hall

/-- Each documentation block of a tree gives at most one doclet, and the doclets keep the
order of the blocks. -/
theorem docletsOfTree_blocks (path : String) (tree : SyntaxTree) :
    ∃ bs, bs.Sublist (tree.comments.filter (·.isDocBlock)) ∧
      List.Forall₂
        (fun c d => Doclet.ofComment path tree.source (targets tree.source tree.root) c = some d)
        bs (docletsOfTree path tree) := by
  have hblocks : docletsOfTree path tree = (tree.comments.filter (·.isDocBlock)).filterMap
      (Doclet.ofComment path tree.source (targets tree.source tree.root)) := by
    rw [List.filterMap_filter, docletsOfTree]
    congr 1
    funext c
    by_cases hc : c.isDocBlock <;> simp [hc, Doclet.ofComment]
  rw [hblocks]
  exact filterMap_sublist_forall₂ _ _

/-- On targets sorted by start, the binary search for the target after a block is the linear
scan for the first target at or after the block's end, followed by the test that only blanks
lie between. The targets of a tree are sorted by start, stably, so of the targets at the least
start at or after a block the one the walk met first is chosen; and each documentation block
gives at most one doclet, in the order of the blocks. -/
theorem targetAfter_linearScan :
    (∀ (src : Source) (ts : List DocTarget) (e : Nat) (t : DocTarget),
      ts.Pairwise (fun a b => a.start ≤ b.start) →
      (targetAfter src ts e = some t ↔
        ts.find? (·.start ≥ e) = some t ∧
          ∃ gap, src.slice? e t.start = some gap ∧ (trimWhite gap).isEmpty = true)) ∧
    (∀ (src : Source) (root : Node),
      (targets src root).Pairwise (fun a b => a.start ≤ b.start) ∧
      ∀ (e : Nat) (t : DocTarget), targetAfter src (targets src root) e = some t ↔
        (targetsOf src "" none root).find? (·.start == t.start) = some t ∧ e ≤ t.start ∧
          (∀ u ∈ targetsOf src "" none root, e ≤ u.start → t.start ≤ u.start) ∧
          ∃ gap, src.slice? e t.start = some gap ∧ (trimWhite gap).isEmpty = true) ∧
    (∀ (path : String) (tree : SyntaxTree),
      ∃ bs, bs.Sublist (tree.comments.filter (·.isDocBlock)) ∧
        List.Forall₂
          (fun c d => Doclet.ofComment path tree.source (targets tree.source tree.root) c = some d)
          bs (docletsOfTree path tree)) :=
  ⟨fun _ _ _ _ hs => targetAfter_eq_some_iff hs,
    fun src root => ⟨targets_sorted src root, fun _ _ => targetAfter_targets_eq_some_iff⟩,
    docletsOfTree_blocks⟩

/-- Three sorted targets after a block ending at byte 8, two of them at byte 9: the search
answers the first of those two exactly when the scan does. -/
theorem targetAfter_linearScan_tie :
    ([⟨4, "a", .member, [], false⟩, ⟨9, "b", .function, [], false⟩,
        ⟨9, "c", .member, [], false⟩] : List DocTarget).Pairwise
        (fun a b => a.start ≤ b.start) ∧
      (targetAfter (Source.ofString "/** x */ b()") [⟨4, "a", .member, [], false⟩,
          ⟨9, "b", .function, [], false⟩, ⟨9, "c", .member, [], false⟩] 8 =
          some ⟨9, "b", .function, [], false⟩ ↔
        ([⟨4, "a", .member, [], false⟩, ⟨9, "b", .function, [], false⟩,
            ⟨9, "c", .member, [], false⟩] : List DocTarget).find? (·.start ≥ 8) =
            some ⟨9, "b", .function, [], false⟩ ∧
          ∃ gap, (Source.ofString "/** x */ b()").slice? 8 9 = some gap ∧
            (trimWhite gap).isEmpty = true) :=
  ⟨by decide, targetAfter_linearScan.1 _ _ _ _ (by decide)⟩

end PluginLens.Docs
