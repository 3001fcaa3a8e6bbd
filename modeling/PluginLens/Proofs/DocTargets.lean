import PluginLens.Proofs.Spans
import PluginLens.Proofs.TargetSearch
import PluginLens.Proofs.Dialect
import PluginLens.Docs.Doclet
import Mathlib.Data.List.TakeWhile

/-!
# Where documentation targets start

A documentation block documents the first target that starts at or after its end, when only
blanks lie between. Which target that is depends on where targets start, and this module
works that out for every tree with the shape tree-sitter gives (`TreeShape`): the root is well
formed, every node but the program and pieces of literal text starts on its first token, an
object literal opens with its anonymous brace, and anonymous nodes are tokens without children.

Every target starts where a node of the tree starts, or where an export statement that leads
it does (`targetsOf_start`), so on a token, never inside a blank gap. An entry of an object
literal is reached from the root through named nodes, and the preorder lists its own target
after targets that all start elsewhere (`targetsOf_split`). Sorting by start keeps that order
among equal starts (`find?_mergeSort_eq`), so a search from the end of a block that only blanks
separate from the entry finds the entry's own target (`targetAfter_entry`). The entry's target
is named and classified as the capability extractor reports the entry
(`ownTargets_of_capability`).
-/

namespace PluginLens.Text

theorem trimWhite_isEmpty {s : String} (h : ∀ ch ∈ s.toList, isWhite ch = true) :
    (trimWhite s).isEmpty = true := by
  have hdrop : s.toList.dropWhile isWhite = [] := List.dropWhile_eq_nil_iff.2 h
  simp [trimWhite, trimStartWhite, trimEndWhite, hdrop]

end PluginLens.Text

namespace PluginLens.Syntax

open PluginLens.Text

/-! ## Induction over a tree and its preorder -/

namespace Node

theorem sizeOf_lt_of_mem_children {n c : Node} (h : c ∈ n.children) : sizeOf c < sizeOf n := by
  obtain ⟨kind, named, missing, field, start, stop, cs⟩ := n
  have : sizeOf c < sizeOf cs := List.sizeOf_lt_of_mem h
  simp only [Node.mk.sizeOf_spec]
  omega

theorem children_induction {motive : Node → Prop} (n : Node)
    (step : ∀ n, (∀ c ∈ n.children, motive c) → motive n) : motive n :=
  step n fun c _ => children_induction c step
termination_by sizeOf n
decreasing_by exact sizeOf_lt_of_mem_children ‹_›

end Node

theorem mem_occurrencesAmong {above : List Node} {o : Node × List Node} {cs : List Node} :
    o ∈ occurrencesAmong above cs ↔ ∃ c ∈ cs, o ∈ occurrences above c := by
  induction cs with
  | nil => simp [occurrencesAmong]
  | cons c cs ih => simp [occurrencesAmong, ih]

theorem mem_occurrences {above : List Node} {o : Node × List Node} {n : Node} :
    o ∈ occurrences above n ↔
      o = (n, above) ∨ ∃ c ∈ n.children, o ∈ occurrences (n :: above) c := by
  obtain ⟨kind, named, missing, field, start, stop, children⟩ := n
  simp [occurrences, mem_occurrencesAmong, Node.children]

theorem mem_occurrences_of_child {above : List Node} {o : Node × List Node} {n c : Node}
    (hc : c ∈ n.children) (ho : o ∈ occurrences (n :: above) c) : o ∈ occurrences above n :=
  mem_occurrences.2 (Or.inr ⟨c, hc, ho⟩)

variable {src : Source}

theorem below_of_mem_occurrences {n : Node} (hn : n.wellFormed src = true) :
    ∀ {above : List Node}, ∀ o ∈ occurrences above n, o.1.Below src n := by
  induction n using Node.children_induction with
  | step n ih =>
    intro above o ho
    rcases mem_occurrences.1 ho with rfl | ⟨c, hc, hoc⟩
    · exact Node.Below.refl hn
    · have hcb := Node.below_of_mem_children hn hc
      exact (ih c hc hcb.1 o hoc).trans hcb

/-! ## The shape of a tree -/

/-- Kinds of node that may start on a blank: the program, which spans the whole text, and
pieces of literal text, which start wherever their text does. -/
def mayStartOnBlank : List String := ["program", "string_fragment", "regex_pattern", "jsx_text"]

/-- Whether byte `b` is where a character that is no `White_Space` starts. -/
def startsOnToken (src : Source) (b : Nat) : Bool :=
  match src.indexOfByte? b with
  | some i => !isWhite (src.charAt i)
  | none => false

/-- The shape of a concrete syntax tree of a text, as tree-sitter builds it: the root is well
formed, every node but the program and pieces of literal text starts on its first token, an
object literal opens with its anonymous brace, and anonymous nodes are tokens, without
children. -/
structure TreeShape (src : Source) (root : Node) : Prop where
  wellFormed : root.wellFormed src = true
  startsOnToken : ∀ o ∈ occurrences [] root, o.1.kind ∉ mayStartOnBlank →
    startsOnToken src o.1.start = true
  objectOpens : ∀ o ∈ occurrences [] root, o.1.kind = "object" →
    o.1.children.head?.map Node.named = some false
  tokensAreLeaves : ∀ o ∈ occurrences [] root, o.1.named = false → o.1.children.isEmpty = true

/-- `m` is reached from `n` by going down through named children. -/
inductive Node.NamedPath (m : Node) : Node → Prop
  | here : Node.NamedPath m m
  | down {n c : Node} :
      c ∈ n.children → c.named = true → Node.NamedPath m c → Node.NamedPath m n

theorem Node.NamedPath.toBelow {m n : Node} (hp : m.NamedPath n) (hn : n.wellFormed src = true) :
    m.Below src n := by
  induction hp with
  | here => exact Node.Below.refl hn
  | down hc _ _ ih =>
    have hcb := Node.below_of_mem_children hn hc
    exact (ih hcb.1).trans hcb

/-- When anonymous nodes are leaves, every named node of a tree is reached through named
children. -/
theorem namedPath_of_mem_occurrences {n : Node} :
    ∀ {above : List Node},
      (∀ x ∈ occurrences above n, x.1.named = false → x.1.children.isEmpty = true) →
      ∀ o ∈ occurrences above n, o.1.named = true → o.1.NamedPath n := by
  induction n using Node.children_induction with
  | step n ih =>
    intro above hleaf o ho hon
    rcases mem_occurrences.1 ho with rfl | ⟨c, hc, hoc⟩
    · exact .here
    · have hleaf' : ∀ x ∈ occurrences (n :: above) c,
          x.1.named = false → x.1.children.isEmpty = true :=
        fun x hx => hleaf x (mem_occurrences_of_child hc hx)
      have hcn : c.named = true := by
        cases hcnamed : c.named with
        | true => rfl
        | false =>
          have hempty := hleaf' (c, n :: above) (mem_occurrences.2 (Or.inl rfl)) hcnamed
          rcases mem_occurrences.1 hoc with rfl | ⟨d, hd, -⟩
          · simp [hcnamed] at hon
          · simp [List.isEmpty_iff.1 hempty] at hd
      exact .down hc hcn (ih c hc hleaf' o hoc hon)

/-- Only the child holding byte `x` may start at `x`, and here it starts before it. -/
theorem start_ne_of_mem_children {n c : Node} {x : Nat} (hn : n.wellFormed src = true)
    (hc : c ∈ n.children) (hcx : c.start < x) (hxc : x < c.stop) :
    ∀ d ∈ n.children, d.start ≠ x := by
  obtain ⟨pre, post, hsplit⟩ := List.append_of_mem hc
  have hord := Node.WellFormed.inOrder hn
  have hwf : ∀ d ∈ n.children, d.wellFormed src = true := fun d hd =>
    (Node.below_of_mem_children hn hd).1
  rw [hsplit] at hord hwf
  simp only [Node.InOrder, List.pairwise_append, List.pairwise_cons] at hord
  intro d hd
  rw [hsplit] at hd
  have hd' := (Node.WellFormed.sound (hwf d hd)).1
  simp only [Span.ofNode] at hd'
  rcases List.mem_append.1 hd with hpre | hd
  · have := hord.2.2 d hpre c List.mem_cons_self
    simp only [Span.Before, Span.ofNode] at this
    omega
  · rcases List.mem_cons.1 hd with rfl | hpost
    · omega
    · have := hord.2.1.1 d hpost
      simp only [Span.Before, Span.ofNode] at this
      omega

/-- An object that opens with an anonymous token starts before each of its named children. -/
theorem start_lt_of_opens {o P : Node} (ho : o.wellFormed src = true)
    (hopen : o.children.head?.map Node.named = some false) (hP : P ∈ o.children)
    (hPn : P.named = true) : o.start < P.start := by
  obtain ⟨b, bs, hbs⟩ : ∃ b bs, o.children = b :: bs := by
    cases h : o.children with
    | nil => simp [h] at hopen
    | cons b bs => exact ⟨b, bs, rfl⟩
  have hbn : b.named = false := by simpa [hbs] using hopen
  have hPbs : P ∈ bs := by
    rw [hbs] at hP
    rcases List.mem_cons.1 hP with rfl | h
    · simp [hbn] at hPn
    · exact h
  have hord := Node.WellFormed.inOrder ho
  rw [hbs] at hord
  have hbP := (List.pairwise_cons.1 hord).1 P hPbs
  have hb := Node.below_of_mem_children ho (hbs ▸ List.mem_cons_self)
  have hbsound := (Node.WellFormed.sound hb.1).1
  have hinside := hb.2
  simp only [Span.Before, Span.Inside, Span.ofNode] at hbP hinside hbsound
  omega

end PluginLens.Syntax

namespace PluginLens.Docs

open PluginLens.Text PluginLens.Syntax

variable {src : Source}

/-! ## The walk -/

/-- The targets of a tree: the root's own, documented from where it was led or else from its
start, then those under its children, an export statement leading its declaration. -/
theorem targetsOf_eq (src : Source) (pk : String) (lead : Option Nat) (n : Node) :
    targetsOf src pk lead n =
      ownTargets src pk (lead.getD n.start) n ++
        targetsAmong src n.kind
          (if n.kind == "export_statement" && (n.child? "declaration").isSome then
            some (lead.getD n.start) else none) n.children := by
  obtain ⟨kind, named, missing, field, start, stop, cs⟩ := n
  rw [targetsOf]
  rfl

theorem ownTargets_eq_nil (pk : String) (origin : Nat) {n : Node} (h : n.kind ∈ mayStartOnBlank) :
    ownTargets src pk origin n = [] := by
  simp only [mayStartOnBlank, List.mem_cons, List.not_mem_nil, or_false] at h
  rcases h with h | h | h | h <;> simp [ownTargets, h, functionDeclarationKinds]

theorem declaratorTargets_start {isConst : Bool} {origin : Nat} {ds : List Node} {t : DocTarget}
    (ht : t ∈ declaratorTargets src isConst origin ds) :
    t.start = origin ∨ ∃ d ∈ ds, t.start = d.start := by
  simp only [declaratorTargets, List.mem_filterMap] at ht
  obtain ⟨⟨d, i⟩, hdi, ht⟩ := ht
  have hd : d ∈ ds := List.fst_mem_of_mem_zipIdx hdi
  have horigin : ∀ t' : DocTarget, t'.start = (if i == 0 then origin else d.start) →
      t'.start = origin ∨ ∃ d ∈ ds, t'.start = d.start := by
    intro t' h'
    by_cases hi : i = 0
    · simp [hi] at h'
      exact Or.inl h'
    · simp [hi] at h'
      exact Or.inr ⟨d, hd, h'⟩
  dsimp only at ht
  split at ht
  · split at ht
    · cases ht
    · split at ht
      · split at ht <;> (cases ht; exact horigin _ rfl)
      · cases ht
        exact horigin _ rfl
  · cases ht

/-- A node documents itself from its origin, and the declarators of a declaration after the
first from their own start. -/
theorem ownTargets_start {pk : String} {origin : Nat} {n : Node} {t : DocTarget}
    (ht : t ∈ ownTargets src pk origin n) :
    t.start = origin ∨
      ∃ d ∈ n.children, d.kind = "variable_declarator" ∧ t.start = d.start := by
  unfold ownTargets at ht
  split at ht
  · rw [List.mem_singleton] at ht
    exact Or.inl (by rw [ht])
  · split at ht
    case h_2 | h_3 =>
      rcases declaratorTargets_start ht with h | ⟨d, hd, h⟩
      · exact Or.inl h
      · simp only [Node.namedChildren, List.mem_filter, beq_iff_eq] at hd
        exact Or.inr ⟨d, hd.1.1, hd.2, h⟩
    all_goals
      left
      dsimp only at ht
      repeat' split at ht
      all_goals simp_all [valueTarget, plainTarget]

/-- Byte `b` is where a node of the tree `n` starts that is neither the program nor a piece of
literal text. -/
def NodeStart (above : List Node) (n : Node) (b : Nat) : Prop :=
  ∃ o ∈ occurrences above n, o.1.kind ∉ mayStartOnBlank ∧ o.1.start = b

theorem NodeStart.of_child {above : List Node} {n c : Node} {b : Nat} (hc : c ∈ n.children)
    (h : NodeStart (n :: above) c b) : NodeStart above n b := by
  obtain ⟨o, ho, h⟩ := h
  exact ⟨o, mem_occurrences_of_child hc ho, h⟩

/-- Where a target under sibling nodes starts, given where those under each sibling do: where
it was led, or where some node under a sibling starts. -/
theorem targetsAmong_start {pk : String} {above cs : List Node}
    (ih : ∀ c ∈ cs, ∀ pk' lead', ∀ t ∈ targetsOf src pk' lead' c,
      lead' = some t.start ∨ NodeStart above c t.start) :
    ∀ (lead : Option Nat), ∀ t ∈ targetsAmong src pk lead cs,
      lead = some t.start ∨ ∃ c ∈ cs, NodeStart above c t.start := by
  induction cs with
  | nil => simp [targetsAmong]
  | cons c cs ihs =>
    have ihs := ihs fun c' hc' => ih c' (List.mem_cons_of_mem c hc')
    have ihc := ih c List.mem_cons_self
    have later : ∀ {l : Option Nat} {t : DocTarget},
        (l = some t.start ∨ ∃ c' ∈ cs, NodeStart above c' t.start) →
        l = some t.start ∨ ∃ c' ∈ c :: cs, NodeStart above c' t.start := by
      rintro l t (h | ⟨c', hc', h⟩)
      · exact Or.inl h
      · exact Or.inr ⟨c', List.mem_cons_of_mem c hc', h⟩
    intro lead t ht
    rw [targetsAmong] at ht
    split at ht
    · exact later (ihs lead t ht)
    · split at ht
      · rcases List.mem_append.1 ht with ht | ht
        · rcases ihc pk lead t ht with h | h
          · exact Or.inl h
          · exact Or.inr ⟨c, List.mem_cons_self, h⟩
        · rcases ihs none t ht with h | h
          · cases h
          · exact later (Or.inr h)
      · rcases List.mem_append.1 ht with ht | ht
        · rcases ihc pk none t ht with h | h
          · cases h
          · exact Or.inr ⟨c, List.mem_cons_self, h⟩
        · exact later (ihs lead t ht)

/-- Every target of a tree starts where it was led, or where a node of the tree starts that is
neither the program nor a piece of literal text. -/
theorem targetsOf_start (n : Node) : ∀ (pk : String) (lead : Option Nat) (above : List Node),
    ∀ t ∈ targetsOf src pk lead n, lead = some t.start ∨ NodeStart above n t.start := by
  induction n using Node.children_induction with
  | step n ih =>
    intro pk lead above t ht
    have fromOrigin : t.start = lead.getD n.start → n.kind ∉ mayStartOnBlank →
        lead = some t.start ∨ NodeStart above n t.start := by
      intro h hk
      cases lead with
      | some l => exact Or.inl (by simp [h])
      | none => exact Or.inr ⟨(n, above), mem_occurrences.2 (Or.inl rfl), hk, by simp [h]⟩
    rw [targetsOf_eq, List.mem_append] at ht
    rcases ht with ht | ht
    · have hkind : n.kind ∉ mayStartOnBlank := fun hk => by
        simp [ownTargets_eq_nil pk _ hk] at ht
      rcases ownTargets_start ht with h | ⟨d, hd, hdk, h⟩
      · exact fromOrigin h hkind
      · have hdk' : d.kind ∉ mayStartOnBlank := by simp [hdk, mayStartOnBlank]
        exact Or.inr (NodeStart.of_child hd
          ⟨(d, n :: above), mem_occurrences.2 (Or.inl rfl), hdk', h.symm⟩)
    · rcases targetsAmong_start (fun c hc pk' lead' => ih c hc pk' lead' (n :: above)) _ t ht with
        h | ⟨c, hc, h⟩
      · split at h
        · rename_i hexp
          have hk : n.kind = "export_statement" := by
            simp only [Bool.and_eq_true, beq_iff_eq] at hexp
            exact hexp.1
          exact fromOrigin (Option.some.inj h).symm (by simp [hk, mayStartOnBlank])
        · cases h
      · exact Or.inr (NodeStart.of_child hc h)

theorem ownTargets_object (pk : String) (origin : Nat) {n : Node} (h : n.kind = "object") :
    ownTargets src pk origin n = [] := by
  simp [ownTargets, h, functionDeclarationKinds]

/-- The targets under siblings split at a named sibling into those before it, those of its
tree, and those after it; the sibling is led from where the siblings were, or from nowhere. -/
theorem targetsAmong_append_cons (src : Source) (pk : String) (post : List Node) {c : Node}
    (hc : c.named = true) (pre : List Node) :
    ∀ lead : Option Nat, ∃ lc lpost, (lc = none ∨ lc = lead) ∧
      targetsAmong src pk lead (pre ++ c :: post) =
        targetsAmong src pk lead pre ++
          (targetsOf src pk lc c ++ targetsAmong src pk lpost post) := by
  induction pre with
  | nil =>
    intro lead
    by_cases hl : (lead.isSome && c.field == some "declaration") = true
    · exact ⟨lead, none, Or.inr rfl, by simp [targetsAmong, hc, hl]⟩
    · exact ⟨none, lead, Or.inl rfl, by simp [targetsAmong, hc, hl]⟩
  | cons p pre ih =>
    intro lead
    by_cases hp : p.named = true
    · by_cases hl : (lead.isSome && p.field == some "declaration") = true
      · obtain ⟨lc, lpost, hlc, h⟩ := ih none
        refine ⟨lc, lpost, Or.inl (hlc.elim id id), ?_⟩
        simp [targetsAmong, hp, hl, h]
      · obtain ⟨lc, lpost, hlc, h⟩ := ih lead
        exact ⟨lc, lpost, hlc, by simp [targetsAmong, hp, hl, h]⟩
    · obtain ⟨lc, lpost, hlc, h⟩ := ih lead
      exact ⟨lc, lpost, hlc, by simp [targetsAmong, hp, h]⟩

/-- Targets under siblings that all end by `b`, led from before `b`, start before `b`. -/
theorem targetsAmong_before {pk : String} {cs : List Node} {b : Nat}
    (hcs : ∀ c ∈ cs, c.wellFormed src = true ∧ c.stop ≤ b) {lead : Option Nat}
    (hlead : ∀ l, lead = some l → l < b) :
    ∀ t ∈ targetsAmong src pk lead cs, t.start < b := by
  intro t ht
  rcases targetsAmong_start (fun c _ pk' lead' => targetsOf_start c pk' lead' []) lead t ht with
    h | ⟨c, hc, o, ho, -, h⟩
  · exact hlead _ h
  · have hb := below_of_mem_occurrences (hcs c hc).1 o ho
    have hsound := (Node.WellFormed.sound hb.1).1
    have hinside := hb.2
    simp only [Span.Inside, Span.ofNode] at hsound hinside
    have := (hcs c hc).2
    omega

theorem before_of_children_eq {n c : Node} {pre post : List Node} (hn : n.wellFormed src = true)
    (hsplit : n.children = pre ++ c :: post) :
    ∀ p ∈ pre, p.wellFormed src = true ∧ p.stop ≤ c.start := by
  intro p hp
  have hmem : p ∈ n.children := by rw [hsplit]; exact List.mem_append_left _ hp
  have hord := Node.WellFormed.inOrder hn
  rw [hsplit] at hord
  have := (List.pairwise_append.1 hord).2.2 p hp c List.mem_cons_self
  exact ⟨(Node.below_of_mem_children hn hmem).1, this⟩

/-! ## The entry's target among all targets -/

section Split

variable {o P : Node} {tP : DocTarget}

/-- In a tree that reaches the object `o` through named nodes, the targets list the own target
of `o`'s entry `P` after targets that all start elsewhere. -/
theorem targetsOf_split (hk : o.kind = "object") (hP : P ∈ o.children) (hPn : P.named = true)
    (hopen : o.start < P.start) (hown : ownTargets src "object" P.start P = [tP]) {n : Node}
    (hpath : o.NamedPath n) (hn : n.wellFormed src = true) :
    ∀ (pk : String) (lead : Option Nat), (∀ l, lead = some l → l < P.start) →
      ∃ A B, targetsOf src pk lead n = A ++ tP :: B ∧ ∀ t ∈ A, t.start ≠ P.start := by
  induction hpath with
  | here =>
    intro pk lead _
    obtain ⟨pre, post, hsplit⟩ := List.append_of_mem hP
    obtain ⟨lc, lpost, hlc, hamong⟩ := targetsAmong_append_cons src "object" post hPn pre none
    obtain rfl : lc = none := hlc.elim id id
    obtain ⟨rest, hrest⟩ : ∃ rest, targetsOf src "object" none P = tP :: rest :=
      ⟨_, by rw [targetsOf_eq, Option.getD_none, hown, List.singleton_append]⟩
    refine ⟨targetsAmong src "object" none pre, rest ++ targetsAmong src "object" lpost post,
      ?_, ?_⟩
    · rw [targetsOf_eq, ownTargets_object _ _ hk, hk, hsplit]
      simp [hamong, hrest]
    · intro t ht
      exact Nat.ne_of_lt (targetsAmong_before (before_of_children_eq hn hsplit) (by simp) t ht)
  | down hc hcn hpath' ih =>
    rename_i n c
    intro pk lead hlead
    have hcb := Node.below_of_mem_children hn hc
    have hoc := hpath'.toBelow hcb.1
    have hPo := Node.below_of_mem_children hoc.1 hP
    have hPsound := (Node.WellFormed.sound hPo.1).1
    have hinside := (hPo.trans hoc).2
    have hcin := hcb.2
    have hoin := hoc.2
    simp only [Span.Inside, Span.ofNode] at hPsound hinside hcin hoin
    have hcP : c.start < P.start := by omega
    have hPc : P.start < c.stop := by omega
    have horigin : lead.getD n.start < P.start := by
      cases lead with
      | some l => exact hlead l rfl
      | none => simp only [Option.getD_none]; omega
    set childLead : Option Nat := if n.kind == "export_statement" && (n.child? "declaration").isSome
      then some (lead.getD n.start) else none with hchildLead
    have hchild : ∀ l, childLead = some l → l < P.start := by
      intro l hl
      rw [hchildLead] at hl
      split at hl
      · rw [← Option.some.inj hl]; exact horigin
      · cases hl
    obtain ⟨pre, post, hsplit⟩ := List.append_of_mem hc
    obtain ⟨lc, lpost, hlc, hamong⟩ :=
      targetsAmong_append_cons src n.kind post hcn pre childLead
    have hlc' : ∀ l, lc = some l → l < P.start := by
      rcases hlc with rfl | rfl
      · simp
      · exact hchild
    obtain ⟨A', B', hAB, hA'⟩ := ih hcb.1 n.kind lc hlc'
    refine ⟨ownTargets src pk (lead.getD n.start) n ++
        targetsAmong src n.kind childLead pre ++ A',
      B' ++ targetsAmong src n.kind lpost post, ?_, ?_⟩
    · rw [targetsOf_eq, hsplit, hamong, hAB]
      simp
    · intro t ht
      simp only [List.mem_append] at ht
      rcases ht with (ht | ht) | ht
      · rcases ownTargets_start ht with h | ⟨d, hd, -, h⟩
        · omega
        · exact h ▸ start_ne_of_mem_children hn hc hcP hPc d hd
      · refine Nat.ne_of_lt (targetsAmong_before (fun p hp => ?_) hchild t ht)
        have := before_of_children_eq hn hsplit p hp
        exact ⟨this.1, by omega⟩
      · exact hA' t ht

end Split

/-! ## One entry, two readings -/

section Entry

theorem isFunction_eq_false {n : Node} (h : n.kind ∈ "class" :: literalKinds) :
    n.isFunction = false := by
  simp only [List.mem_cons, literalKinds, List.not_mem_nil, or_false] at h
  rcases h with h | h | h | h | h | h | h <;>
    simp [Node.isFunction, h, functionDeclarationKinds, functionExpressionKinds]

theorem kindOfValue_eq_function_iff (v : Node) :
    kindOfValue v = .function ↔
      ValueKind.ofNode v = .function ∨ ValueKind.ofNode v = .arrow := by
  unfold kindOfValue ValueKind.ofNode
  by_cases ha : v.unparen.kind = "arrow_function"
  · simp [ha]
  by_cases hc : v.unparen.kind = "class"
  · have hf : v.unparen.isFunction = false := isFunction_eq_false (by simp [hc])
    simp [hc, literalKinds, hf]
  by_cases hl : v.unparen.kind ∈ literalKinds
  · simp [ha, hc, hl, isFunction_eq_false (List.mem_cons_of_mem _ hl)]
  · by_cases hf : v.unparen.isFunction <;> simp [ha, hc, hl, hf]

theorem kindOfValue_eq_classDecl_iff (v : Node) :
    kindOfValue v = .classDecl ↔ v.unparen.kind = "class" := by
  unfold kindOfValue
  by_cases ha : v.unparen.kind = "arrow_function"
  · simp [ha]
  by_cases hc : v.unparen.kind = "class"
  · simp [hc]
  · by_cases hf : v.unparen.isFunction <;> simp [ha, hc, hf]

theorem kindOfValue_cases (v : Node) :
    kindOfValue v = .function ∨ kindOfValue v = .classDecl ∨ kindOfValue v = .member := by
  unfold kindOfValue
  by_cases ha : v.unparen.kind = "arrow_function"
  · simp [ha]
  by_cases hc : v.unparen.kind = "class"
  · simp [hc]
  · by_cases hf : v.unparen.isFunction <;> simp [ha, hc, hf]

/-- What an entry reports as a capability: a pair with a static key names its value, a method
with a static name is a function, and a shorthand entry names itself. -/
theorem entryFinding_capability {P : Node} {c : Capability}
    (hc : c ∈ (entryFinding src P).capabilities) :
    (P.kind = "pair" ∧ ∃ k v, P.child? "key" = some k ∧ P.child? "value" = some v ∧
      keyName src k = some c.name ∧ c.valueKind = ValueKind.ofNode v) ∨
    (P.kind = "method_definition" ∧ ∃ k, P.child? "name" = some k ∧
      keyName src k = some c.name ∧ c.valueKind = .function) ∨
    (P.kind = "shorthand_property_identifier" ∧ c.name = src.slice P.start P.stop ∧
      c.valueKind = .other) := by
  unfold entryFinding at hc
  split at hc
  · rename_i hk
    split at hc
    · rename_i k v hkey hval
      dsimp only at hc
      split at hc
      · rename_i n hn
        simp only [List.mem_singleton] at hc
        subst hc
        exact Or.inl ⟨hk, k, v, hkey, hval, hn, rfl⟩
      · simp at hc
    · simp at hc
  · rename_i hk
    split at hc
    · rename_i k hkey
      dsimp only at hc
      split at hc
      · rename_i n hn
        simp only [List.mem_singleton] at hc
        subst hc
        exact Or.inr (Or.inl ⟨hk, k, hkey, hn, rfl⟩)
      · simp at hc
    · simp at hc
  · rename_i hk
    simp only [List.mem_singleton] at hc
    subst hc
    exact Or.inr (Or.inr ⟨hk, rfl, rfl⟩)
  · simp at hc
  · simp at hc

/-- The entry of an object that gives a capability is documented as a target of its own, from
its origin, under the capability's name: as a function exactly when the capability is a
function or an arrow, as a class exactly when it is a pair whose value is a class expression,
and as a member otherwise. -/
theorem ownTargets_of_capability {P : Node} {c : Capability}
    (hc : c ∈ (entryFinding src P).capabilities) (origin : Nat) :
    ∃ t, ownTargets src "object" origin P = [t] ∧ t.start = origin ∧ t.name = c.name ∧
      (t.kind = .function ↔ c.valueKind = .function ∨ c.valueKind = .arrow) ∧
      (t.kind = .classDecl ↔
        P.kind = "pair" ∧ ∃ v, P.child? "value" = some v ∧ v.unparen.kind = "class") ∧
      (t.kind = .function ∨ t.kind = .classDecl ∨ t.kind = .member) := by
  rcases entryFinding_capability hc with
    ⟨hk, k, v, hkey, hval, hname, hvk⟩ | ⟨hk, k, hkey, hname, hvk⟩ | ⟨hk, hname, hvk⟩
  · refine ⟨valueTarget src origin c.name v, ?_, rfl, rfl, ?_, ?_, kindOfValue_cases v⟩
    · simp [ownTargets, hk, hkey, hval, hname, functionDeclarationKinds]
    · rw [hvk]
      exact kindOfValue_eq_function_iff v
    · simp only [hk, hval, Option.some.injEq, true_and, exists_eq_left']
      exact kindOfValue_eq_classDecl_iff v
  · refine ⟨⟨origin, c.name, .function, paramNames src P, P.hasToken "async"⟩, ?_, rfl, rfl,
      by simp [hvk], by simp [hk], Or.inl rfl⟩
    simp [ownTargets, hk, hkey, hname, functionDeclarationKinds]
  · refine ⟨plainTarget origin c.name .member, ?_, rfl, rfl, by simp [plainTarget, hvk],
      by simp [plainTarget, hk], Or.inr (Or.inr rfl)⟩
    simp [ownTargets, hk, hname, functionDeclarationKinds, plainTarget]

end Entry

/-! ## The target after a block -/

section AfterBlock

variable {text : String} {root : Node}

/-- Every target of a tree with the shape tree-sitter gives starts on a token, so never inside
a range of blanks. -/
theorem targetsOf_outside_blanks (hshape : TreeShape (Source.ofString text) root) {a b : Nat}
    {gap : String} (hgap : (Source.ofString text).slice? a b = some gap)
    (hwhite : ∀ ch ∈ gap.toList, isWhite ch = true) :
    ∀ y ∈ targetsOf (Source.ofString text) "" none root, y.start < a ∨ b ≤ y.start := by
  intro y hy
  rcases targetsOf_start root "" none [] y hy with h | ⟨x, hx, hxk, hxs⟩
  · cases h
  rcases Nat.lt_or_ge y.start a with h | h
  · exact Or.inl h
  refine Or.inr (Nat.le_of_not_lt fun hlt => ?_)
  have htok := hshape.startsOnToken x hx hxk
  unfold startsOnToken at htok
  split at htok
  · rename_i i hi
    have hmem := Source.charAt_mem_slice? text hgap hi (hxs ▸ h) (hxs ▸ hlt)
    simp [hwhite _ hmem] at htok
  · cases htok

/-- A block that only blanks separate from an entry of an object literal documents the entry's
own target: the search from the block's end passes no other target, and finds the entry's
first among those at its start. -/
theorem targetAfter_entry (hshape : TreeShape (Source.ofString text) root) {o P : Node}
    {tP : DocTarget} (ho : o ∈ (occurrences [] root).map Prod.fst) (hobj : o.kind = "object")
    (hP : P ∈ objectEntries o)
    (hown : ownTargets (Source.ofString text) "object" P.start P = [tP])
    (htstart : tP.start = P.start) {blockEnd : Nat} {gap : String}
    (hgap : (Source.ofString text).slice? blockEnd P.start = some gap)
    (hwhite : ∀ ch ∈ gap.toList, isWhite ch = true) :
    targetAfter (Source.ofString text) (targets (Source.ofString text) root) blockEnd =
      some tP := by
  have hPo : P ∈ o.children := (List.filter_sublist.trans List.filter_sublist).subset hP
  have hPn : P.named = true := by
    simp only [objectEntries, Node.namedChildren, List.mem_filter] at hP
    exact hP.1.2
  obtain ⟨⟨o', above⟩, ho', rfl⟩ := List.mem_map.1 ho
  have hon : o'.named = true := by
    cases h : o'.named with
    | true => rfl
    | false =>
      have hleaf := hshape.tokensAreLeaves _ ho' h
      simp [List.isEmpty_iff.1 hleaf] at hPo
  have hpath := namedPath_of_mem_occurrences hshape.tokensAreLeaves _ ho' hon
  have hopen := start_lt_of_opens (hpath.toBelow hshape.wellFormed).1
    (hshape.objectOpens _ ho' hobj) hPo hPn
  obtain ⟨A, B, hL, hA⟩ :=
    targetsOf_split hobj hPo hPn hopen hown hpath hshape.wellFormed "" none (by simp)
  have hfind : (targets (Source.ofString text) root).find? (·.start ≥ blockEnd) = some tP := by
    unfold targets
    rw [hL]
    refine find?_mergeSort_eq DocTarget.start (htstart ▸ Source.le_of_slice? text hgap)
      (fun y hy => htstart ▸ hA y hy) ?_
    rw [htstart, ← hL]
    exact targetsOf_outside_blanks hshape hgap hwhite
  exact (targetAfter_eq_some_iff (targets_sorted _ root)).2
    ⟨hfind, gap, htstart ▸ hgap, trimWhite_isEmpty hwhite⟩

end AfterBlock

end PluginLens.Docs
