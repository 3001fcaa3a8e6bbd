import PluginLens.Proofs.PropertyDocs

/-!
# Where an exported declaration is documented

A documentation block right before a top-level export statement documents what the statement
exports (`Exported`): a function, generator or class declaration under its name, a `var`,
`let` or `const` declaration under the name of its first declarator, or the value of
`export default` under `default`. Main statement: the block's doclet has that name and is
placed at the line and column where the statement starts (`exportDoclet_position`).

The statement starts at its first decorator when it has decorators, so a decorated export is
placed at the decorator and not at its `export` keyword (`decoratedExport_column`). Without
decorators the statement starts at `export`.

The walk over the tree passes the statement's start to its declaration as a lead, and the lead
moves the declaration's own first target only (`targetsOf_led`): the later declarators of a
declaration of several variables keep their own starts. Decorators open with their `@`, so
nothing under them starts where the statement does, and the search from the block's end meets
the exported target first (`targetsOf_export_split`, `targetAfter_export`).
-/

namespace PluginLens.Docs

open PluginLens.Text PluginLens.Syntax PluginLens.Json

variable {src : Source}

/-! ## How an export statement leads its declaration -/

/-- The first sibling filling the `declaration` field takes the lead; the siblings before it
and after it are led from nowhere. -/
theorem targetsAmong_declaration {pk : String} {pre post : List Node} {D : Node}
    (hD : D.named = true) (hf : D.field = some "declaration")
    (hpre : ∀ c ∈ pre, c.field ≠ some "declaration") (l : Nat) :
    targetsAmong src pk (some l) (pre ++ D :: post) =
      targetsAmong src pk none pre ++
        (targetsOf src pk (some l) D ++ targetsAmong src pk none post) := by
  induction pre with
  | nil => simp [targetsAmong, hD, hf]
  | cons c pre ih =>
    have hc : c.field ≠ some "declaration" := hpre c List.mem_cons_self
    have ih := ih fun c' hc' => hpre c' (List.mem_cons_of_mem c hc')
    by_cases hn : c.named = true
    · simp [targetsAmong, hn, hc, ih]
    · simp [targetsAmong, hn, ih]

/-- The target `t`, documented from `l`. -/
def DocTarget.withStart (l : Nat) (t : DocTarget) : DocTarget := { t with start := l }

theorem filterMap_zipIdx_one_congr {α β : Type} {f g : α × Nat → Option β} (xs : List α)
    (h : ∀ x : α × Nat, x.2 ≠ 0 → f x = g x) :
    (xs.zipIdx 1).filterMap f = (xs.zipIdx 1).filterMap g :=
  List.filterMap_congr fun x hx => h x (by
    have := (List.mem_zipIdx hx).1
    omega)

/-- Led from `l`, the declarators of a declaration whose first one is named by an identifier
give the same targets, the first one moved to `l`. -/
theorem declaratorTargets_led {isConst : Bool} {s l : Nat} {d id : Node} {rest : List Node}
    (hid : d.child? "name" = some id) (hidk : id.kind = "identifier") :
    declaratorTargets src isConst l (d :: rest) =
      (declaratorTargets src isConst s (d :: rest)).modifyHead (DocTarget.withStart l) := by
  unfold declaratorTargets
  rw [List.zipIdx_cons, List.filterMap_cons, List.filterMap_cons]
  simp only [hid, hidk, bne_self_eq_false, Bool.false_eq_true, if_false, beq_self_eq_true, if_true,
    Nat.zero_add]
  rcases hv : d.child? "value" with _ | v
  · simp only [List.modifyHead_cons]
    congr 1
    exact filterMap_zipIdx_one_congr rest fun x hx => by simp [hx]
  · by_cases hm : (kindOfValue v != TargetKind.member) = true <;>
      simp only [hm, Bool.false_eq_true, if_true, if_false, List.modifyHead_cons] <;>
      congr 1 <;>
      exact filterMap_zipIdx_one_congr rest fun x hx => by simp [hx]

/-- A declaration whose first declarator is named by an identifier documents that name first,
from where it is documented. -/
theorem declaratorTargets_first {isConst : Bool} {l : Nat} {d id : Node} {rest : List Node}
    (hid : d.child? "name" = some id) (hidk : id.kind = "identifier") :
    ∃ t ts, declaratorTargets src isConst l (d :: rest) = t :: ts ∧ t.start = l ∧
      t.name = src.slice id.start id.stop := by
  unfold declaratorTargets
  rw [List.zipIdx_cons, List.filterMap_cons]
  simp only [hid, hidk, bne_self_eq_false, Bool.false_eq_true, if_false, beq_self_eq_true, if_true]
  rcases hv : d.child? "value" with _ | v
  · exact ⟨_, _, rfl, rfl, rfl⟩
  · by_cases hm : (kindOfValue v != TargetKind.member) = true <;>
      simp only [hm, Bool.false_eq_true, if_true, if_false] <;>
      exact ⟨_, _, rfl, rfl, rfl⟩

/-- `Exported src E X name`: the export statement `E` exports `X` under `name`, as the grammar
builds it: a function, generator or class declaration under its name, a `var`, `let` or
`const` declaration under the name of its first declarator, or the value of `export default`
under `default`. -/
inductive Exported (src : Source) (E : Node) : Node → String → Prop
  | declared {D nm : Node} (hD : E.child? "declaration" = some D) (hvalue : E.child? "value" = none)
      (hk : D.kind ∈ functionDeclarationKinds ∨ D.kind = "class_declaration")
      (hnm : D.child? "name" = some nm) :
      Exported src E D (src.slice nm.start nm.stop)
  | declarators {D d id : Node} {rest : List Node} (hD : E.child? "declaration" = some D)
      (hvalue : E.child? "value" = none)
      (hk : D.kind = "lexical_declaration" ∨ D.kind = "variable_declaration")
      (hds : D.namedChildren.filter (·.kind == "variable_declarator") = d :: rest)
      (hid : d.child? "name" = some id) (hidk : id.kind = "identifier") :
      Exported src E D (src.slice id.start id.stop)
  | value {v : Node} (hD : E.child? "declaration" = none) (hdefault : E.hasToken "default" = true)
      (hv : E.child? "value" = some v) :
      Exported src E v "default"

/-- A declaration led from `l` gives the targets it gives on its own, its first moved to `l`;
that first one is the declaration's, under the name it exports. -/
theorem ownTargets_led {E D : Node} {name : String} (hX : Exported src E D name)
    (hD : E.child? "declaration" = some D) (pk : String) (l : Nat) :
    ownTargets src pk l D = (ownTargets src pk D.start D).modifyHead (DocTarget.withStart l) ∧
      ∃ t rest, ownTargets src pk l D = t :: rest ∧ t.start = l ∧ t.name = name := by
  cases hX with
  | @declared nm _ _ hk hnm =>
    rcases hk with hk | hk
    · refine ⟨by simp [ownTargets, hk, DocTarget.withStart], ?_⟩
      simp [ownTargets, hk, hnm]
    · have hfun : "class_declaration" ∉ functionDeclarationKinds := by decide
      refine ⟨by simp [ownTargets, hk, hfun, plainTarget, DocTarget.withStart], ?_⟩
      simp [ownTargets, hk, hfun, hnm, plainTarget]
  | @declarators d id rest _ _ hk hds hid hidk =>
    have hown : ∀ o, ownTargets src pk o D =
        declaratorTargets src ((D.child? "kind").map (fun m => src.slice m.start m.stop) ==
          some "const") o (d :: rest) := by
      intro o
      rcases hk with hk | hk <;> simp [ownTargets, hk, functionDeclarationKinds, hds]
    rw [hown, hown]
    exact ⟨declaratorTargets_led hid hidk, declaratorTargets_first hid hidk⟩
  | value hD' => simp [hD'] at hD

theorem Exported.kind_ne {E X : Node} {name : String} (hX : Exported src E X name)
    (hD : E.child? "declaration" = some X) : X.kind ≠ "export_statement" := by
  cases hX with
  | declared _ _ hk _ =>
    simp only [functionDeclarationKinds, List.mem_cons, List.not_mem_nil, or_false] at hk
    rcases hk with (hk | hk) | hk <;> simp [hk]
  | declarators _ _ hk _ _ _ => rcases hk with hk | hk <;> simp [hk]
  | value hD' => simp [hD'] at hD

/-- An exported declaration, led from `l`, gives the targets of its tree with its own first one
moved to `l`: the lead moves that target only, and for a declaration of several variables
the later declarators keep their own starts. -/
theorem targetsOf_led {E D : Node} {name : String} (hX : Exported src E D name)
    (hD : E.child? "declaration" = some D) (pk : String) (l : Nat) :
    targetsOf src pk (some l) D = (targetsOf src pk none D).modifyHead (DocTarget.withStart l) := by
  have hk : (D.kind == "export_statement") = false := by simpa using hX.kind_ne hD
  obtain ⟨hmod, -⟩ := ownTargets_led hX hD pk l
  obtain ⟨-, t, ts, hown, -⟩ := ownTargets_led hX hD pk D.start
  rw [targetsOf_eq, targetsOf_eq, Option.getD_some, Option.getD_none, hmod, hown]
  simp [hk]

/-- With no lead, the targets under siblings are those of the named siblings' trees. -/
theorem mem_targetsAmong_none {pk : String} {cs : List Node} {t : DocTarget} :
    t ∈ targetsAmong src pk none cs →
      ∃ c ∈ cs, c.named = true ∧ t ∈ targetsOf src pk none c := by
  induction cs with
  | nil => simp [targetsAmong]
  | cons c cs ih =>
    intro ht
    by_cases hn : c.named = true
    · simp only [targetsAmong, hn, Bool.not_true, Bool.false_eq_true, if_false,
        Option.isSome_none, Bool.false_and, List.mem_append] at ht
      rcases ht with ht | ht
      · exact ⟨c, List.mem_cons_self, hn, ht⟩
      · obtain ⟨c', hc', h⟩ := ih ht
        exact ⟨c', List.mem_cons_of_mem c hc', h⟩
    · simp only [targetsAmong, hn, Bool.not_false, if_true] at ht
      obtain ⟨c', hc', h⟩ := ih ht
      exact ⟨c', List.mem_cons_of_mem c hc', h⟩

/-- The export statement's children split at what it exports; none before it fills the
`declaration` or the `value` field. -/
theorem Exported.children_split {E X : Node} {name : String} (hX : Exported src E X name) :
    ∃ pre post, E.children = pre ++ X :: post ∧
      ∀ p ∈ pre, p.field ≠ some "declaration" ∧ p.field ≠ some "value" := by
  cases hX with
  | declared hD hvalue _ _ | declarators hD hvalue _ _ _ _ =>
    obtain ⟨-, pre, post, hsplit, hpre⟩ := List.find?_eq_some_iff_append.1 hD
    have hnone := List.find?_eq_none.1 hvalue
    refine ⟨pre, post, hsplit, fun p hp => ⟨by simpa using hpre p hp, ?_⟩⟩
    simpa using hnone p (hsplit ▸ List.mem_append_left _ hp)
  | value hD _ hv =>
    obtain ⟨-, pre, post, hsplit, hpre⟩ := List.find?_eq_some_iff_append.1 hv
    have hnone := List.find?_eq_none.1 hD
    refine ⟨pre, post, hsplit, fun p hp => ⟨?_, by simpa using hpre p hp⟩⟩
    simpa using hnone p (hsplit ▸ List.mem_append_left _ hp)

/-- A decorator that opens with its `@` documents nothing at its own start: every target under
it starts later. -/
theorem decorator_targets_after {pk : String} {p : Node} (hk : p.kind = "decorator")
    (hwf : p.wellFormed src = true) (hopen : p.children.head?.map Node.named = some false) :
    ∀ t ∈ targetsOf src pk none p, p.start < t.start := by
  intro t ht
  have hown : ownTargets src pk p.start p = [] := by
    simp [ownTargets, hk, functionDeclarationKinds]
  rw [targetsOf_eq, Option.getD_none, hown, List.nil_append, hk] at ht
  obtain ⟨c, hc, hcn, htc⟩ := mem_targetsAmong_none (by simpa using ht)
  have hcp := start_lt_of_opens hwf hopen hc hcn
  have hcwf := (Node.below_of_mem_children hwf hc).1
  rcases targetsOf_start c "decorator" none [] t htc with h | ⟨o, ho, -, hos⟩
  · cases h
  · have hinside := (below_of_mem_occurrences hcwf o ho).2
    simp only [Span.Inside, Span.ofNode] at hinside
    omega

theorem Exported.exists_child {E D : Node} {name : String} (hX : Exported src E D name)
    (hD : E.child? "declaration" = some D) : ∃ c, c ∈ D.children := by
  cases hX with
  | declared _ _ _ hnm => exact ⟨_, List.mem_of_find?_eq_some hnm⟩
  | declarators _ _ _ hds _ _ =>
    have hd := List.mem_of_mem_filter (hds ▸ List.mem_cons_self)
    exact ⟨_, List.mem_of_mem_filter hd⟩
  | value hD' => simp [hD'] at hD

/-- What an export statement exports is its declaration, when it has one and no value, or the
value of `export default`. -/
theorem Exported.field_cases {E X : Node} {name : String} (hX : Exported src E X name) :
    (E.child? "declaration" = some X ∧ E.child? "value" = none) ∨
      (E.child? "declaration" = none ∧ E.hasToken "default" = true ∧
        E.child? "value" = some X) := by
  cases hX with
  | declared hD hvalue _ _ => exact Or.inl ⟨hD, hvalue⟩
  | declarators hD hvalue _ _ _ _ => exact Or.inl ⟨hD, hvalue⟩
  | value hD hdefault hv => exact Or.inr ⟨hD, hdefault, hv⟩

/-- The named children of an export statement other than its declaration and its value are
decorators, each opening with its `@`, as the grammar builds them. -/
def DecoratorsOpen (E : Node) : Prop :=
  ∀ p ∈ E.children, p.named = true → p.field ≠ some "declaration" → p.field ≠ some "value" →
    p.kind = "decorator" ∧ p.children.head?.map Node.named = some false

instance (E : Node) : Decidable (DecoratorsOpen E) :=
  inferInstanceAs (Decidable (∀ p ∈ E.children, p.named = true → p.field ≠ some "declaration" →
    p.field ≠ some "value" → p.kind = "decorator" ∧ p.children.head?.map Node.named = some false))

/-- The children before an exported declaration document nothing at the statement's start:
they are decorators, and a target under one starts after its `@`, inside the statement. -/
theorem targetsAmong_decorators_after {E X : Node} {pre post : List Node}
    (hEwf : E.wellFormed src = true) (hdec : DecoratorsOpen E)
    (hsplit : E.children = pre ++ X :: post)
    (hpre : ∀ p ∈ pre, p.field ≠ some "declaration" ∧ p.field ≠ some "value") :
    ∀ u ∈ targetsAmong src "export_statement" none pre, E.start < u.start := by
  intro u hu
  obtain ⟨p, hp, hpn, hpu⟩ := mem_targetsAmong_none hu
  have hpE : p ∈ E.children := hsplit ▸ List.mem_append_left _ hp
  obtain ⟨hpk, hpopen⟩ := hdec p hpE hpn (hpre p hp).1 (hpre p hp).2
  have hpb := Node.below_of_mem_children hEwf hpE
  have hafter := decorator_targets_after hpk hpb.1 hpopen u hpu
  have hinside := hpb.2
  simp only [Span.Inside, Span.ofNode] at hinside
  omega

section Split

variable {root E X : Node} {name : String}

theorem named_of_mem_children (hshape : TreeShape src root) {o : Node × List Node} {c : Node}
    (ho : o ∈ occurrences [] root) (hc : c ∈ o.1.children) : o.1.named = true := by
  cases h : o.1.named with
  | true => rfl
  | false =>
    have hleaf := hshape.tokensAreLeaves o ho h
    simp [List.isEmpty_iff.1 hleaf] at hc

/-- The walk over a program lists the target of what a top-level export statement exports,
documented from the statement's start, after targets that all start elsewhere: those of the
statements before it, and those under its decorators, which start after their `@`. -/
theorem targetsOf_export_split (hshape : TreeShape src root) (hroot : root.kind = "program")
    (hE : E ∈ root.children) (hEk : E.kind = "export_statement") (hX : Exported src E X name)
    (hdec : DecoratorsOpen E) :
    ∃ A tX B, targetsOf src "" none root = A ++ tX :: B ∧ (∀ t ∈ A, t.start ≠ E.start) ∧
      tX.start = E.start ∧ tX.name = name := by
  have hwf := hshape.wellFormed
  have hEwf : E.wellFormed src = true := (Node.below_of_mem_children hwf hE).1
  have hEocc : (E, [root]) ∈ occurrences [] root :=
    mem_occurrences_of_child hE (mem_occurrences.2 (Or.inl rfl))
  obtain ⟨preE, postE, hEsplit, hpreE⟩ := hX.children_split
  have hXmem : X ∈ E.children := hEsplit ▸ List.mem_append_right _ List.mem_cons_self
  have hEn : E.named = true := named_of_mem_children hshape hEocc hXmem
  obtain ⟨pre, post, hsplit⟩ := List.append_of_mem hE
  obtain ⟨lc, lpost, hlc, hamong⟩ := targetsAmong_append_cons src "program" post hEn pre none
  obtain rfl : lc = none := hlc.elim id id
  have hbefore : ∀ t ∈ targetsAmong src "program" none pre, t.start < E.start :=
    targetsAmong_before (before_of_children_eq hwf hsplit) (by simp)
  have hwalk : targetsOf src "" none root = targetsAmong src "program" none pre ++
      (targetsOf src "program" none E ++ targetsAmong src "program" lpost post) := by
    rw [targetsOf_eq, ownTargets_eq_nil _ _ (by simp [hroot, mayStartOnBlank]), hroot, hsplit]
    simp [hamong]
  rcases hX.field_cases with ⟨hD, hvalue⟩ | ⟨hD, hdefault, hv⟩
  · have hown : ownTargets src "program" E.start E = [] := by
      simp [ownTargets, hEk, hvalue, functionDeclarationKinds]
    have hfield : X.field = some "declaration" := by simpa using List.find?_some hD
    have hXocc : (X, [E, root]) ∈ occurrences [] root :=
      mem_occurrences_of_child hE (mem_occurrences_of_child hXmem (mem_occurrences.2 (Or.inl rfl)))
    obtain ⟨c, hc⟩ := hX.exists_child hD
    have hXn : X.named = true := named_of_mem_children hshape hXocc hc
    have hled := @targetsAmong_declaration src "export_statement" preE postE X
      hXn hfield (fun p hp => (hpreE p hp).1) E.start
    obtain ⟨-, t, ts, hownX, htstart, htname⟩ := ownTargets_led hX hD "export_statement" E.start
    have hXk : (X.kind == "export_statement") = false := by simpa using hX.kind_ne hD
    refine ⟨targetsAmong src "program" none pre ++ targetsAmong src "export_statement" none preE,
      t, ts ++ targetsAmong src X.kind none X.children ++
        targetsAmong src "export_statement" none postE ++ targetsAmong src "program" lpost post,
      ?_, ?_, htstart, htname⟩
    · rw [hwalk, targetsOf_eq, Option.getD_none, hown, hEk, hEsplit]
      simp [hD, hled, targetsOf_eq, hownX, hXk]
    · intro u hu
      rcases List.mem_append.1 hu with hu | hu
      · exact Nat.ne_of_lt (hbefore u hu)
      · exact Nat.ne_of_gt (targetsAmong_decorators_after hEwf hdec hEsplit hpreE u hu)
  · have hown : ownTargets src "program" E.start E = [valueTarget src E.start "default" X] := by
      simp [ownTargets, hEk, hdefault, hv, functionDeclarationKinds]
    have hname : name = "default" := by
      cases hX with
      | declared hD' => simp [hD'] at hD
      | declarators hD' => simp [hD'] at hD
      | value => rfl
    refine ⟨targetsAmong src "program" none pre, valueTarget src E.start "default" X,
      targetsAmong src "export_statement" none E.children ++ targetsAmong src "program" lpost post,
      ?_, fun t ht => Nat.ne_of_lt (hbefore t ht), rfl, hname.symm⟩
    rw [hwalk, targetsOf_eq, Option.getD_none, hown, hEk, hD]
    simp

end Split

/-- A block that only blanks separate from a top-level export statement documents what the
statement exports, from the statement's start. -/
theorem targetAfter_export {text : String} {root E X : Node} {name : String}
    (hshape : TreeShape (Source.ofString text) root) (hroot : root.kind = "program")
    (hE : E ∈ root.children) (hEk : E.kind = "export_statement")
    (hX : Exported (Source.ofString text) E X name)
    (hdec : DecoratorsOpen E)
    {blockEnd : Nat} {gap : String}
    (hgap : (Source.ofString text).slice? blockEnd E.start = some gap)
    (hwhite : ∀ ch ∈ gap.toList, isWhite ch = true) :
    ∃ tX, targetAfter (Source.ofString text) (targets (Source.ofString text) root) blockEnd =
      some tX ∧ tX.start = E.start ∧ tX.name = name := by
  obtain ⟨A, tX, B, hL, hA, hstart, hname⟩ := targetsOf_export_split hshape hroot hE hEk hX hdec
  have hfind : (targets (Source.ofString text) root).find? (·.start ≥ blockEnd) = some tX := by
    unfold targets
    rw [hL]
    refine find?_mergeSort_eq DocTarget.start (hstart ▸ Source.le_of_slice? text hgap)
      (fun y hy => hstart ▸ hA y hy) ?_
    rw [hstart, ← hL]
    exact targetsOf_outside_blanks hshape hgap hwhite
  exact ⟨tX, (targetAfter_eq_some_iff (targets_sorted _ root)).2
    ⟨hfind, gap, hstart ▸ hgap, trimWhite_isEmpty hwhite⟩, hstart, hname⟩

/-! ## The doclet of a block that documents an export -/

/-- The titles of the tags that may set the name of what a block documents. -/
def nameTitles : List String := ["name", "function", "func", "method", "module", "typedef"]

theorem Draft.addTag_name? (d : Draft) {title : String} (value : String)
    (h : title ∉ nameTitles) : (d.addTag title value).name? = d.name? := by
  unfold Draft.addTag
  split <;> simp_all [nameTitles]

theorem foldl_addTag_name? {tags : List (String × String)}
    (h : ∀ t ∈ tags, t.1 ∉ nameTitles) :
    ∀ d : Draft, (tags.foldl (fun (d : Draft) (t, v) => d.addTag t v) d).name? = d.name? := by
  induction tags with
  | nil => simp
  | cons tag tags ih =>
    intro d
    rw [List.foldl_cons, ih (fun t ht => h t (List.mem_cons_of_mem _ ht))]
    exact Draft.addTag_name? d tag.2 (h tag List.mem_cons_self)

/-- A block whose tags set no name documents its target under the target's name, at the
line and column where the target starts. -/
theorem Doclet.ofBlock_position (path : String) (src : Source) {block : DocBlock}
    (target : DocTarget) (blockEnd : Nat) (h : ∀ t ∈ block.tags, t.1 ∉ nameTitles) :
    ∃ d, Doclet.ofBlock path src block (some target) blockEnd = some d ∧
      d.name = target.name ∧ (d.line, d.column) = lineCol src target.start := by
  have hname := foldl_addTag_name? h
    { name? := some target.name, kind? := some target.kind.name, description := block.description }
  simp only [Doclet.ofBlock, Option.map_some]
  rw [hname]
  exact ⟨_, rfl, rfl, rfl⟩

theorem Doclet.toJson_meta (d : Doclet) :
    (d.toJson.get? "meta").bind (·.get? "lineno") = some (Json.nat d.line) ∧
      (d.toJson.get? "meta").bind (·.get? "columnno") = some (Json.nat d.column) := by
  simp only [Doclet.toJson, get?_sorted, List.reverse_append, List.lookup_append]
  constructor <;> simp [get?_sorted, lookup_cons_eq]

/-! ## An exported declaration's doclet -/

/-- A documentation block followed by nothing but blanks and then a top-level export statement
`E`, with no tag that sets the name of what it documents, gives a doclet for what `E` exports:
named after the declared function or class, after the first declarator, or `default` for the
value of `export default`, and placed at the line and column where `E` starts. That is where
its first decorator starts when it has decorators, and its `export` keyword otherwise. The
statement leads its declaration: the declaration's own first target moves to the statement's
start and every other target stays, so a declaration of several variables keeps the later
declarators at their own starts. This holds in every tree with the shape tree-sitter gives,
and the doclets of a text are those of its tree. -/
theorem exportDoclet_position (path : String) {text : String} {t : SyntaxTree}
    (hsrc : t.source = Source.ofString text) (hshape : TreeShape t.source t.root)
    (hroot : t.root.kind = "program") {E X : Node} {name : String}
    (hE : E ∈ t.root.children) (hEk : E.kind = "export_statement")
    (hX : Exported t.source E X name)
    (hdec : DecoratorsOpen E)
    {cm : Comment} (hcm : cm ∈ t.comments) (hdoc : cm.isDocBlock = true) {gap : String}
    (hgap : t.source.slice? cm.stop E.start = some gap)
    (hwhite : ∀ ch ∈ gap.toList, isWhite ch = true)
    (hnaming : ∀ tag ∈ (DocBlock.parse cm.text).tags, tag.1 ∉ nameTitles) :
    (SyntaxTree.build text = .ok t → docletsOf path text = .ok (docletsOfTree path t)) ∧
    (∃ d, Doclet.ofComment path t.source (targets t.source t.root) cm = some d ∧
      d ∈ docletsOfTree path t ∧ d.toJson.get? "name" = some (.str name) ∧
      (d.toJson.get? "meta").bind (·.get? "lineno") =
        some (Json.nat (lineCol t.source E.start).1) ∧
      (d.toJson.get? "meta").bind (·.get? "columnno") =
        some (Json.nat (lineCol t.source E.start).2)) ∧
    (E.child? "declaration" = some X → ∀ pk,
      targetsOf t.source pk (some E.start) X =
        (targetsOf t.source pk none X).modifyHead (DocTarget.withStart E.start)) := by
  obtain ⟨dialect, root, comments, source⟩ := t
  dsimp only at hsrc hshape hroot hE hX hcm hgap ⊢
  subst hsrc
  obtain ⟨tX, hafter, hstart, hname⟩ :=
    targetAfter_export hshape hroot hE hEk hX hdec hgap hwhite
  obtain ⟨d, hd, hdname, hdpos⟩ :=
    Doclet.ofBlock_position path (Source.ofString text) tX cm.stop hnaming
  have hcomment :
      Doclet.ofComment path (Source.ofString text) (targets (Source.ofString text) root) cm =
        some d := by
    simp [Doclet.ofComment, hdoc, hafter, hd]
  obtain ⟨-, -, hnm, -⟩ := Doclet.toJson_names d
  obtain ⟨hline, hcol⟩ := Doclet.toJson_meta d
  rw [hstart] at hdpos
  refine ⟨fun hb => by simp [docletsOf, hb],
    ⟨d, hcomment, List.mem_filterMap.2 ⟨cm, hcm, hcomment⟩, ?_, ?_, ?_⟩,
    fun hD pk => targetsOf_led hX hD pk E.start⟩
  · rw [hnm, hdname, hname]
  · rw [hline, ← hdpos]
  · rw [hcol, ← hdpos]

/-- The class `A` of `@dec export class A {}`, as read. -/
def decoratedClass : Node :=
  .mk "class_declaration" true false (some "declaration") 23 33
    [.mk "class" false false none 23 28 [],
     .mk "identifier" true false (some "name") 29 30 [],
     .mk "class_body" true false (some "body") 31 33
       [.mk "\x7b" false false none 31 32 [], .mk "\x7d" false false none 32 33 []]]

/-- `@dec export class A {}` on the line after the block `/** Doc */`, as read: the statement
starts at its decorator. -/
def decoratedExport : Node :=
  .mk "export_statement" true false none 11 33
    [.mk "decorator" true false (some "decorator") 11 15
       [.mk "@" false false none 11 12 [], .mk "identifier" true false none 12 15 []],
     .mk "export" false false none 16 22 [],
     decoratedClass]

/-- The program of the decorated export. -/
def decoratedProgram : Node :=
  .mk "program" true false none 0 33 [decoratedExport]

/-- Under a decorator, the doclet of an exported class is placed at the decorator: line 2,
column 1, not column 6 where the `export` keyword starts. -/
theorem decoratedExport_column :
    let text := "/** Doc */\n@dec export class A \x7b\x7d"
    let t : SyntaxTree :=
      ⟨.module, decoratedProgram, [⟨.block, "* Doc ", 0, 10⟩], Source.ofString text⟩
    (docletsOfTree "plugin.js" t).map (fun d => (d.name, d.line, d.column)) = [("A", 2, 1)] ∧
      (decoratedExport.children.find? (·.kind == "export")).map
        (fun k => lineCol t.source k.start) = some (2, 6) := by
  decide +kernel

/-- The block before `@dec export class A {}` documents the class `A` at the decorator. -/
theorem exportDoclet_decoratedClass :
    let text := "/** Doc */\n@dec export class A \x7b\x7d"
    let cm : Comment := ⟨.block, "* Doc ", 0, 10⟩
    let t : SyntaxTree := ⟨.module, decoratedProgram, [cm], Source.ofString text⟩
    (TreeShape t.source t.root ∧ Exported t.source decoratedExport decoratedClass "A" ∧
      t.source.slice? cm.stop decoratedExport.start = some "\n") ∧
    ∃ d, Doclet.ofComment "plugin.js" t.source (targets t.source t.root) cm = some d ∧
      d.toJson.get? "name" = some (.str "A") ∧
      (d.toJson.get? "meta").bind (·.get? "lineno") = some (Json.nat 2) ∧
      (d.toJson.get? "meta").bind (·.get? "columnno") = some (Json.nat 1) := by
  intro text cm t
  have hshape : TreeShape t.source t.root :=
    ⟨by decide +kernel, by decide +kernel, by decide +kernel, by decide +kernel⟩
  have hname : t.source.slice 29 30 = "A" := by decide +kernel
  have hX : Exported t.source decoratedExport decoratedClass "A" :=
    hname ▸ @Exported.declared t.source decoratedExport decoratedClass
      (.mk "identifier" true false (some "name") 29 30 []) rfl rfl (Or.inr rfl) rfl
  have hgap : t.source.slice? cm.stop decoratedExport.start = some "\n" := by decide +kernel
  -- over `List.all`: a bounded `∀` over characters may be decided by enumerating them all
  have hwhite : ∀ ch ∈ "\n".toList, isWhite ch = true := List.all_eq_true.1 (by decide +kernel)
  have hdec : DecoratorsOpen decoratedExport := by decide +kernel
  have hnaming : ∀ tag ∈ (DocBlock.parse cm.text).tags, tag.1 ∉ nameTitles := by
    decide +kernel
  have hpos : lineCol t.source decoratedExport.start = (2, 1) := by decide +kernel
  obtain ⟨-, ⟨d, hd, -, hnm, hline, hcol⟩, -⟩ :=
    exportDoclet_position "plugin.js" rfl hshape rfl (List.mem_singleton.2 rfl) rfl hX hdec
      (List.mem_singleton.2 rfl) (by decide +kernel) hgap hwhite hnaming
  rw [hpos] at hline hcol
  exact ⟨⟨hshape, hX, hgap⟩, d, hd, hnm, hline, hcol⟩

end PluginLens.Docs
