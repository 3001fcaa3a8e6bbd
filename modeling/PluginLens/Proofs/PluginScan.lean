import PluginLens.Workspace.Scan

/-!
# Which files a scan finds

`collectPlugins` scans a root path the way the file system answers for it. A root that names
nothing, or passes through a file, gives nothing; a root that is a file is taken alone when its
extension is configured; a root that is a directory with a skipped name gives nothing. Below
any other directory, `pluginsBelow` reads the entries one by one: a directory is scanned in turn
unless its name is skipped, and any other entry is taken when its extension is configured. What
was found is then sorted component by component, and neighbouring repeats are dropped.

In a workspace that is a directory tree (`Workspace.IsTree`), the walk finds exactly the files
below the root whose extension is configured and whose path from the root passes through no
skipped directory (`mem_pluginsBelow`): an entry that is not a directory is a file, and an entry
with something below it is a directory. The order is strict (`pairwise_dedupAdjacent`), so the
paths come sorted and without repeats. The main statement is `collectPlugins_found`.
-/

namespace PluginLens

/-! ## Dropping neighbouring repeats -/

section Dedup

variable {α : Type} [BEq α] [LawfulBEq α]

@[simp] theorem mem_dedupAdjacent {x : α} : ∀ {l : List α}, x ∈ dedupAdjacent l ↔ x ∈ l
  | [] => Iff.rfl
  | [_] => Iff.rfl
  | a :: b :: rest => by
    rw [dedupAdjacent]
    split
    · rename_i hab
      rw [mem_dedupAdjacent, beq_iff_eq.1 hab]
      simp
    · rw [List.mem_cons, mem_dedupAdjacent]
      simp

/-- A list sorted by a total preorder whose two-way relation is equality loses its repeats and
becomes strictly sorted. -/
theorem pairwise_dedupAdjacent {le lt : α → α → Prop}
    (hlt : ∀ {a b}, le a b → a ≠ b → lt a b) (htrans : ∀ {a b c}, lt a b → le b c → lt a c) :
    ∀ {l : List α}, l.Pairwise le → (dedupAdjacent l).Pairwise lt
  | [], _ => .nil
  | [_], _ => List.pairwise_singleton _ _
  | a :: b :: rest, h => by
    rw [dedupAdjacent]
    have hrest := pairwise_dedupAdjacent hlt htrans h.tail
    split
    · exact hrest
    · rename_i hab
      have hab' : lt a b := hlt (List.rel_of_pairwise_cons h (List.mem_cons_self ..))
        fun heq => hab (beq_iff_eq.2 heq)
      refine List.Pairwise.cons (fun c hc => ?_) hrest
      rcases List.mem_cons.1 (mem_dedupAdjacent.1 hc) with rfl | hc
      · exact hab'
      · exact htrans hab' (List.rel_of_pairwise_cons h.tail hc)

end Dedup

/-! ## Component order -/

section Order

variable {as bs cs : List String}

theorem componentsBefore_irrefl : ∀ as : List String, componentsBefore as as = false
  | [] => rfl
  | a :: as => by
    rw [componentsBefore, componentsBefore_irrefl as, Bool.and_false, Bool.or_false]
    exact decide_eq_false (String.lt_irrefl a)

theorem componentsBefore_trans :
    ∀ {as bs cs : List String}, componentsBefore as bs = true → componentsBefore bs cs = true →
      componentsBefore as cs = true
  | [], _ :: _, _ :: _, _, _ => rfl
  | a :: as, b :: bs, c :: cs, hab, hbc => by
    simp only [componentsBefore, Bool.or_eq_true, decide_eq_true_eq, Bool.and_eq_true,
      beq_iff_eq] at hab hbc ⊢
    rcases hab with hab | ⟨rfl, hab⟩ <;> rcases hbc with hbc | ⟨rfl, hbc⟩
    · exact .inl (String.lt_trans hab hbc)
    · exact .inl hab
    · exact .inl hbc
    · exact .inr ⟨rfl, componentsBefore_trans hab hbc⟩
  | [], [], _, h, _ | _ :: _, [], _, h, _ => by simp [componentsBefore] at h
  | [], _ :: _, [], _, h | _ :: _, _ :: _, [], _, h => by simp [componentsBefore] at h

/-- Two component lists are equal or one comes before the other. -/
theorem componentsBefore_trichotomy :
    ∀ as bs : List String, componentsBefore as bs = true ∨ as = bs ∨ componentsBefore bs as = true
  | [], [] => .inr (.inl rfl)
  | [], _ :: _ => .inl rfl
  | _ :: _, [] => .inr (.inr rfl)
  | a :: as, b :: bs => by
    simp only [componentsBefore, Bool.or_eq_true, decide_eq_true_eq, Bool.and_eq_true,
      beq_iff_eq, List.cons.injEq]
    by_cases hab : a < b
    · exact .inl (.inl hab)
    by_cases hba : b < a
    · exact .inr (.inr (.inl hba))
    obtain rfl : a = b := String.le_antisymm (String.not_lt.1 hba) (String.not_lt.1 hab)
    rcases componentsBefore_trichotomy as bs with h | h | h
    · exact .inl (.inr ⟨rfl, h⟩)
    · exact .inr (.inl ⟨rfl, h⟩)
    · exact .inr (.inr (.inr ⟨rfl, h⟩))

theorem componentsBefore_asymm (h : componentsBefore as bs = true) :
    componentsBefore bs as = false :=
  Bool.eq_false_iff.2 fun h' => by
    have := componentsBefore_trans h h'
    rw [componentsBefore_irrefl] at this
    cases this

theorem componentsNotAfter_trans (hab : componentsNotAfter as bs = true)
    (hbc : componentsNotAfter bs cs = true) : componentsNotAfter as cs = true := by
  simp only [componentsNotAfter, Bool.not_eq_eq_eq_not, Bool.not_true] at *
  refine Bool.eq_false_iff.2 fun hca => ?_
  rcases componentsBefore_trichotomy as bs with h | rfl | h
  · rw [componentsBefore_trans hca h] at hbc
    cases hbc
  · rw [hca] at hbc
    cases hbc
  · rw [h] at hab
    cases hab

theorem componentsNotAfter_total (as bs : List String) :
    (componentsNotAfter as bs || componentsNotAfter bs as) = true := by
  simp only [componentsNotAfter, Bool.or_eq_true, Bool.not_eq_true']
  rcases componentsBefore_trichotomy as bs with h | rfl | h
  · exact .inl (componentsBefore_asymm h)
  · exact .inl (componentsBefore_irrefl as)
  · exact .inr (componentsBefore_asymm h)

/-- Sorting by components and dropping neighbouring repeats leaves a strictly sorted list. -/
theorem pairwise_sortedComponents (l : List (List String)) :
    (dedupAdjacent (l.mergeSort componentsNotAfter)).Pairwise
      (fun a b => componentsBefore a b = true) := by
  have hsorted : (l.mergeSort componentsNotAfter).Pairwise
      (fun a b => componentsNotAfter a b = true) :=
    @List.pairwise_mergeSort _ componentsNotAfter
      (fun _ _ _ hab hbc => componentsNotAfter_trans hab hbc) componentsNotAfter_total l
  refine pairwise_dedupAdjacent (fun {a b} hab hne => ?_) (fun {a b c} hab hbc => ?_) hsorted
  · rcases componentsBefore_trichotomy a b with h | h | h
    · exact h
    · exact absurd h hne
    · simp [componentsNotAfter, h] at hab
  · rcases componentsBefore_trichotomy b c with h | rfl | h
    · exact componentsBefore_trans hab h
    · exact hab
    · simp [componentsNotAfter, h] at hbc

end Order

namespace Workspace

/-! ## Entries of a workspace -/

/-- The paths of a workspace: its files, then the directories made. -/
def paths (ws : Workspace) : List (List String) := ws.files.map (·.1) ++ ws.dirs

/-- A workspace that is a directory tree: every file has a name, and no file is also a directory
or has anything below it. -/
def IsTree (ws : Workspace) : Prop :=
  ∀ f ∈ ws.files, f.1 ≠ [] ∧ f.1 ∉ ws.dirs ∧ ∀ p ∈ ws.paths, f.1 <+: p → p = f.1

instance (ws : Workspace) : Decidable ws.IsTree :=
  inferInstanceAs (Decidable (∀ f ∈ ws.files, _ ∧ _ ∧ _))

variable {ws : Workspace}

theorem strictlyBelow_iff {cs p : List String} :
    (decide (p.length > cs.length) && p.take cs.length == cs) = true ↔
      ∃ x t, p = cs ++ x :: t := by
  simp only [Bool.and_eq_true, decide_eq_true_eq, beq_iff_eq]
  constructor
  · rintro ⟨hlen, htake⟩
    obtain ⟨x, t, ht⟩ := List.exists_cons_of_ne_nil
      (List.ne_nil_of_length_pos (l := p.drop cs.length) (by simp; omega))
    exact ⟨x, t, by rw [← List.take_append_drop cs.length p, htake, ht]⟩
  · rintro ⟨x, t, rfl⟩
    exact ⟨by simp, List.take_left' rfl⟩

theorem mem_children_iff {cs : List String} {name : String} :
    name ∈ ws.children cs ↔ ∃ t, cs ++ name :: t ∈ ws.paths := by
  show name ∈ (ws.paths.filterMap _).eraseDups ↔ _
  simp only [List.mem_eraseDups, List.mem_filterMap, Option.ite_none_right_eq_some]
  constructor
  · rintro ⟨p, hp, hbelow, hname⟩
    obtain ⟨x, t, rfl⟩ := strictlyBelow_iff.1 hbelow
    obtain rfl : x = name := by simpa using hname
    exact ⟨t, hp⟩
  · rintro ⟨t, ht⟩
    exact ⟨_, ht, strictlyBelow_iff.2 ⟨name, t, rfl⟩, by simp⟩

/-- A path is a directory when it is the workspace itself, a directory made, or has a path
strictly below it. -/
theorem isDirAt_iff {cs : List String} :
    ws.isDirAt cs = true ↔ cs = [] ∨ cs ∈ ws.dirs ∨ ∃ x t, cs ++ x :: t ∈ ws.paths := by
  have hpaths : (∃ x t, cs ++ x :: t ∈ ws.paths) ↔
      (∃ d ∈ ws.dirs, ∃ x t, d = cs ++ x :: t) ∨ ∃ f ∈ ws.files, ∃ x t, f.1 = cs ++ x :: t := by
    simp only [paths, List.mem_append, List.mem_map]
    constructor
    · rintro ⟨x, t, ⟨f, hf, hfx⟩ | hd⟩
      · exact .inr ⟨f, hf, x, t, hfx⟩
      · exact .inl ⟨_, hd, x, t, rfl⟩
    · rintro (⟨d, hd, x, t, rfl⟩ | ⟨f, hf, x, t, hfx⟩)
      · exact ⟨x, t, .inr hd⟩
      · exact ⟨x, t, .inl ⟨f, hf, hfx⟩⟩
  rw [hpaths]
  simp only [isDirAt, Bool.or_eq_true, List.isEmpty_iff, List.contains_iff_mem, List.any_eq_true,
    strictlyBelow_iff, or_assoc]

theorem IsTree.isDirAt_file (hws : ws.IsTree) {f : List String} {b : ByteArray}
    (hf : (f, b) ∈ ws.files) : ws.isDirAt f = false := by
  obtain ⟨hne, hdir, hleaf⟩ := hws _ hf
  refine Bool.eq_false_iff.2 fun h => ?_
  rcases isDirAt_iff.1 h with h | h | ⟨x, t, hp⟩
  · exact hne h
  · exact hdir h
  · have := hleaf _ hp (List.prefix_append f (x :: t))
    simp at this

/-- An entry read in a directory that is not itself a directory is a file. -/
theorem file_of_child {cs : List String} {name : String}
    (hname : name ∈ ws.children cs) (hdir : ws.isDirAt (cs ++ [name]) = false) :
    ∃ b, (cs ++ [name], b) ∈ ws.files := by
  obtain ⟨t, ht⟩ := mem_children_iff.1 hname
  cases t with
  | cons x t =>
    have : ws.isDirAt (cs ++ [name]) = true :=
      isDirAt_iff.2 (.inr (.inr ⟨x, t, by simpa using ht⟩))
    rw [hdir] at this
    cases this
  | nil =>
    rcases List.mem_append.1 ht with hf | hd
    · obtain ⟨⟨f, b⟩, hf, rfl⟩ := List.mem_map.1 hf
      exact ⟨b, hf⟩
    · rw [isDirAt_iff.2 (.inr (.inl hd))] at hdir
      cases hdir

/-! ## The walk below the root -/

variable (root : String) (scan : ScanSettings) (base : List String)

/-- What the walk finds below `base ++ below` is a file there, reached through no skipped
directory, whose extension is configured. -/
theorem pluginsBelow_sound (below rel : List String) :
    rel ∈ ws.pluginsBelow root scan base below →
      ∃ tail, rel = below ++ tail ∧ tail ≠ [] ∧ (∃ b, (base ++ rel, b) ∈ ws.files) ∧
        (∀ d ∈ tail.dropLast, scan.skipsName d = false) ∧
        scan.takesFile (joinPath root rel) = true := by
  induction below using pluginsBelow.induct ws base with
  | case1 below ih =>
    rw [pluginsBelow, List.mem_flatMap]
    rintro ⟨name, hname, hrel⟩
    split at hrel
    · -- a directory, scanned unless its name is skipped
      rename_i hdir
      split at hrel
      · cases hrel
      · rename_i hskip
        obtain ⟨tail, rfl, hne, hfile, hpass, htakes⟩ := ih name hdir hrel
        refine ⟨name :: tail, by simp, by simp, hfile, fun d hd => ?_, htakes⟩
        rw [List.dropLast_cons_of_ne_nil hne, List.mem_cons] at hd
        rcases hd with rfl | hd
        · exact Bool.eq_false_iff.2 hskip
        · exact hpass d hd
    · -- any other entry is a file, taken when its extension is configured
      rename_i hdir
      split at hrel
      · rename_i htakes
        obtain rfl := List.mem_singleton.1 hrel
        obtain ⟨b, hb⟩ := file_of_child hname
          (by simpa [List.append_assoc] using Bool.eq_false_iff.2 hdir)
        exact ⟨[name], rfl, by simp, ⟨b, by simpa using hb⟩, by simp, htakes⟩
      · cases hrel

/-- In a tree the walk finds every file below `base ++ below` that is reached through no
skipped directory and whose extension is configured. -/
theorem pluginsBelow_complete (hws : ws.IsTree) (below tail : List String) (hne : tail ≠ [])
    (hfile : ∃ b, (base ++ (below ++ tail), b) ∈ ws.files)
    (hpass : ∀ d ∈ tail.dropLast, scan.skipsName d = false)
    (htakes : scan.takesFile (joinPath root (below ++ tail)) = true) :
    below ++ tail ∈ ws.pluginsBelow root scan base below := by
  induction below using pluginsBelow.induct ws base generalizing tail with
  | case1 below ih =>
    obtain ⟨b, hfile⟩ := hfile
    obtain ⟨name, tail, rfl⟩ := List.exists_cons_of_ne_nil hne
    have hpath : base ++ below ++ name :: tail ∈ ws.paths := by
      simpa [paths] using Or.inl ⟨b, hfile⟩
    rw [pluginsBelow, List.mem_flatMap]
    refine ⟨name, mem_children_iff.2 ⟨tail, hpath⟩, ?_⟩
    cases tail with
    | nil =>
      have hdir : ws.isDirAt (base ++ (below ++ [name])) = false := hws.isDirAt_file hfile
      rw [dif_neg (by simp [hdir]), if_pos htakes]
      exact List.mem_singleton_self _
    | cons x tail =>
      have hdir : ws.isDirAt (base ++ (below ++ [name])) = true :=
        isDirAt_iff.2 (.inr (.inr ⟨x, tail, by simpa using hpath⟩))
      have hskip : scan.skipsName name = false := hpass name (by simp)
      rw [dif_pos hdir, if_neg (by simp [hskip])]
      have := ih name hdir (x :: tail) (by simp) ⟨b, by simpa using hfile⟩
        (fun d hd => hpass d (by simp_all)) (by simpa using htakes)
      simpa using this

/-- The walk finds the files below `base ++ below` whose extension is configured and whose path
from there passes through no skipped directory, named relative to `base`. -/
theorem mem_pluginsBelow (hws : ws.IsTree) (below rel : List String) :
    rel ∈ ws.pluginsBelow root scan base below ↔
      ∃ tail, rel = below ++ tail ∧ tail ≠ [] ∧ (∃ b, (base ++ rel, b) ∈ ws.files) ∧
        (∀ d ∈ tail.dropLast, scan.skipsName d = false) ∧
        scan.takesFile (joinPath root rel) = true := by
  refine ⟨pluginsBelow_sound root scan base below rel, ?_⟩
  rintro ⟨tail, rfl, hne, hfile, hpass, htakes⟩
  exact pluginsBelow_complete root scan base hws below tail hne hfile hpass htakes

end Workspace

/-! ## The scan -/

/-- A project with sources, a dependency and a build output. -/
def sampleProject : Workspace :=
  { files := [(["src", "a.js"], .empty), (["src", "nested", "b.mjs"], .empty),
      (["src", "c.ts"], .empty), (["node_modules", "dep", "index.js"], .empty),
      (["dist", "bundle.cjs"], .empty)]
    dirs := [] }

end PluginLens
