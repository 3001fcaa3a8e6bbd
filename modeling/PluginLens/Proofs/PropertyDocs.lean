import PluginLens.Proofs.DocTargets

/-!
# A documented object entry and its capability

Two walks read the entries of an object literal: the capability extractor reports each entry
with a static name, and the documentation reader finds, after each documentation block, the
target that the block documents. They agree. When a block is followed by nothing but blanks
and then an entry that the extractor reports as a capability, and no tag of the block names
what it documents or says what kind of thing it is, the block's doclet has the capability's
name as its id, long name and name, and its kind is `function` exactly for a function or an
arrow, `class` exactly for a pair whose value is a class expression, and `member` otherwise
(`propertyDoclet_matches_capability`).

The tree is any tree with the shape tree-sitter gives (`TreeShape`), in which the block's
search finds the entry's own target (`targetAfter_entry`). What is left is the doclet: tags
other than the naming ones keep the target's name and kind (`Doclet.ofBlock_target`), and a
doclet is written under its name as id, long name and name (`Doclet.toJson_names`), since a
sorted object holds under each key the last member written with it (`Json.get?_sorted`).
-/

namespace PluginLens.Json

theorem lookup_cons_eq (k k₀ : String) (v₀ : Json) (rest : List (String × Json)) :
    ((k₀, v₀) :: rest).lookup k = if k = k₀ then some v₀ else rest.lookup k := by
  by_cases h : k = k₀
  · subst h
    simp
  · simp [List.lookup_cons, beq_false_of_ne h, h]

theorem lookup_insertSorted (k : String) (v : Json) (k' : String) :
    ∀ acc : List (String × Json),
      (insertSorted k v acc).lookup k' = if k' = k then some v else acc.lookup k'
  | [] => by simp [insertSorted, lookup_cons_eq]
  | (k₀, v₀) :: rest => by
    have ih := lookup_insertSorted k v k' rest
    unfold insertSorted
    by_cases h0 : k = k₀
    · subst h0
      by_cases hk : k' = k <;> simp [lookup_cons_eq, hk]
    · by_cases hlt : k < k₀
      · simp [h0, hlt, lookup_cons_eq]
      · by_cases hk : k' = k₀
        · subst hk
          simp [h0, hlt, Ne.symm h0]
        · simp [h0, hlt, hk, lookup_cons_eq, ih]

/-- A sorted object holds, under each key, the last member written with it. -/
theorem get?_sorted (ms : List (String × Json)) (k : String) :
    (Json.sorted ms).get? k = ms.reverse.lookup k := by
  suffices h : ∀ acc, (ms.foldl (fun acc (k, v) => insertSorted k v acc) acc).lookup k =
      (ms.reverse.lookup k).or (acc.lookup k) by
    simpa [Json.sorted, get?] using h []
  induction ms with
  | nil => simp
  | cons m ms ih =>
    obtain ⟨k₁, v₁⟩ := m
    intro acc
    rw [List.foldl_cons, ih, List.reverse_cons, List.lookup_append, lookup_insertSorted,
      Option.or_assoc, lookup_cons_eq]
    by_cases hk : k = k₁ <;> simp [hk]
end PluginLens.Json

namespace PluginLens.Docs

open PluginLens.Text PluginLens.Syntax PluginLens.Json

/-! ## The doclet of a block that documents a target -/

/-- The titles of the tags that name what a block documents or say what kind of thing it is. -/
def namingTitles : List String :=
  ["name", "kind", "function", "func", "method", "module", "typedef", "file", "fileoverview",
    "overview", "constant", "const", "class", "constructor"]

theorem Draft.addTag_naming (d : Draft) {title : String} (value : String)
    (h : title ∉ namingTitles) :
    (d.addTag title value).name? = d.name? ∧ (d.addTag title value).kind? = d.kind? := by
  unfold Draft.addTag
  split <;> simp_all [namingTitles]

theorem foldl_addTag_naming {tags : List (String × String)}
    (h : ∀ t ∈ tags, t.1 ∉ namingTitles) :
    ∀ d : Draft, (tags.foldl (fun (d : Draft) (t, v) => d.addTag t v) d).name? = d.name? ∧
      (tags.foldl (fun (d : Draft) (t, v) => d.addTag t v) d).kind? = d.kind? := by
  induction tags with
  | nil => simp
  | cons tag tags ih =>
    intro d
    obtain ⟨hname, hkind⟩ := Draft.addTag_naming d tag.2 (h tag List.mem_cons_self)
    rw [List.foldl_cons]
    obtain ⟨ih1, ih2⟩ := ih (fun t ht => h t (List.mem_cons_of_mem _ ht)) (d.addTag tag.1 tag.2)
    exact ⟨ih1.trans hname, ih2.trans hkind⟩

theorem Doclet.ofBlock_target (path : String) (src : Source) {block : DocBlock} (target : DocTarget)
    (blockEnd : Nat) (h : ∀ t ∈ block.tags, t.1 ∉ namingTitles) :
    ∃ d, Doclet.ofBlock path src block (some target) blockEnd = some d ∧
      d.name = target.name ∧ d.kind = target.kind.name := by
  obtain ⟨hname, hkind⟩ := foldl_addTag_naming h
    { name? := some target.name, kind? := some target.kind.name, description := block.description }
  simp only [Doclet.ofBlock, Option.map_some]
  rw [hname]
  exact ⟨_, rfl, rfl, by simp [hkind]⟩

theorem lookup_optMember {key k : String} (o : Option Json) (h : k ≠ key) :
    (optMember key o).reverse.lookup k = none := by
  cases o <;> simp [optMember, lookup_cons_eq, h]

theorem lookup_listMember {key k : String} (items : List Json) (h : k ≠ key) :
    (listMember key items).reverse.lookup k = none := by
  unfold listMember
  split <;> simp [lookup_cons_eq, h]

theorem lookup_ite_member {key k : String} (c : Prop) [Decidable c] (v : Json) (h : k ≠ key) :
    (if c then [] else [(key, v)]).reverse.lookup k = none ∧
      (if c then [(key, v)] else []).reverse.lookup k = none := by
  by_cases hc : c <;> simp [hc, lookup_cons_eq, h]

/-- A doclet is written under its name three times, as its id, long name and name, beside its
kind. -/
theorem Doclet.toJson_names (d : Doclet) :
    d.toJson.get? "id" = some (.str d.name) ∧ d.toJson.get? "longname" = some (.str d.name) ∧
      d.toJson.get? "name" = some (.str d.name) ∧ d.toJson.get? "kind" = some (.str d.kind) := by
  simp only [Doclet.toJson, get?_sorted, List.reverse_append, List.lookup_append]
  refine ⟨?_, ?_, ?_, ?_⟩ <;>
    simp [lookup_optMember, lookup_listMember, lookup_ite_member, lookup_cons_eq]

/-! ## An entry's doclet -/

/-- A documentation block followed by nothing but blanks and then an entry of an object literal
that the capability extractor reports as `c`, with no tag that names what the block documents
or says what kind of thing it is, gives a doclet for the entry: its id, long name and name are
`c`'s name, and its kind is `function` exactly when `c` is a function or an arrow, `class`
exactly when the entry is a pair whose value is a class expression, and `member` otherwise.
This holds in every tree with the shape tree-sitter gives, and the doclets of a text are those
of its tree. -/
theorem propertyDoclet_matches_capability (path : String) {text : String} {t : SyntaxTree}
    (hsrc : t.source = Source.ofString text) (hshape : TreeShape t.source t.root) {o : Node}
    (ho : o ∈ (occurrences [] t.root).map Prod.fst) (hobj : o.kind = "object") {P : Node}
    (hP : P ∈ objectEntries o) {c : Capability}
    (hc : c ∈ (entryFinding t.source P).capabilities)
    {cm : Comment} (hcm : cm ∈ t.comments) (hdoc : cm.isDocBlock = true) {gap : String}
    (hgap : t.source.slice? cm.stop P.start = some gap)
    (hwhite : ∀ ch ∈ gap.toList, isWhite ch = true)
    (hnaming : ∀ tag ∈ (DocBlock.parse cm.text).tags, tag.1 ∉ namingTitles) :
    (SyntaxTree.build text = .ok t → docletsOf path text = .ok (docletsOfTree path t)) ∧
    ∃ d, Doclet.ofComment path t.source (targets t.source t.root) cm = some d ∧
      d ∈ docletsOfTree path t ∧
      d.toJson.get? "id" = some (.str c.name) ∧ d.toJson.get? "longname" = some (.str c.name) ∧
      d.toJson.get? "name" = some (.str c.name) ∧
      (d.kind = "function" ↔ c.valueKind = .function ∨ c.valueKind = .arrow) ∧
      (d.kind = "class" ↔
        P.kind = "pair" ∧ ∃ v, P.child? "value" = some v ∧ v.unparen.kind = "class") ∧
      (d.kind = "member" ↔ ¬(c.valueKind = .function ∨ c.valueKind = .arrow) ∧
        ¬(P.kind = "pair" ∧ ∃ v, P.child? "value" = some v ∧ v.unparen.kind = "class")) := by
  obtain ⟨dialect, root, comments, source⟩ := t
  dsimp only at hsrc hshape ho hc hcm hgap ⊢
  subst hsrc
  obtain ⟨tP, hown, htstart, htname, hfun, hclass, hcases⟩ :=
    ownTargets_of_capability hc P.start
  have hafter := targetAfter_entry hshape ho hobj hP hown htstart hgap hwhite
  obtain ⟨d, hd, hdname, hdkind⟩ :=
    Doclet.ofBlock_target path (Source.ofString text) tP cm.stop hnaming
  have hcomment :
      Doclet.ofComment path (Source.ofString text) (targets (Source.ofString text) root) cm =
        some d := by
    simp [Doclet.ofComment, hdoc, hafter, hd]
  refine ⟨fun hb => by simp [docletsOf, hb], d, hcomment,
    List.mem_filterMap.2 ⟨cm, hcm, hcomment⟩, ?_⟩
  obtain ⟨hid, hlong, hnm, -⟩ := Doclet.toJson_names d
  rw [hdname, htname] at hid hlong hnm
  refine ⟨hid, hlong, hnm, ?_, ?_, ?_⟩
  · rw [hdkind, ← hfun]
    rcases hcases with h | h | h <;> simp [h, TargetKind.name]
  · rw [hdkind, ← hclass]
    rcases hcases with h | h | h <;> simp [h, TargetKind.name]
  · rw [hdkind, ← hfun, ← hclass]
    rcases hcases with h | h | h <;> simp [h, TargetKind.name]

/-- The method of `x = {\n  a: 1,\n  /** Go. */\n  go() {}\n}`, as read. -/
def goMethod : Node :=
  .mk "method_definition" true false none 29 36
    [.mk "property_identifier" true false (some "name") 29 31 [],
     .mk "formal_parameters" true false (some "parameters") 31 33
       [.mk "(" false false none 31 32 [], .mk ")" false false none 32 33 []],
     .mk "statement_block" true false (some "body") 34 36
       [.mk "\x7b" false false none 34 35 [], .mk "\x7d" false false none 35 36 []]]

/-- The object literal holding `goMethod`, after a pair. -/
def goObject : Node :=
  .mk "object" true false (some "right") 4 38
    [.mk "\x7b" false false none 4 5 [],
     .mk "pair" true false none 8 12
       [.mk "property_identifier" true false (some "key") 8 9 [],
        .mk ":" false false none 9 10 [],
        .mk "number" true false (some "value") 11 12 []],
     .mk "," false false none 12 13 [],
     goMethod,
     .mk "\x7d" false false none 37 38 []]

/-- The whole program: `goObject` assigned to `x`. -/
def goProgram : Node :=
  .mk "program" true false none 0 38
    [.mk "expression_statement" true false none 0 38
      [.mk "assignment_expression" true false none 0 38
        [.mk "identifier" true false (some "left") 0 1 [],
         .mk "=" false false none 2 3 [],
         goObject]]]

theorem goMethod_doclet :
    let text := "x = \x7b\n  a: 1,\n  /** Go. */\n  go() \x7b\x7d\n\x7d"
    let cm : Comment := ⟨.block, "* Go. ", 16, 26⟩
    let t : SyntaxTree := ⟨.script, goProgram, [cm], Source.ofString text⟩
    let c : Capability := ⟨"go", .function, "() \x7b\x7d", ⟨31, 36⟩⟩
    TreeShape t.source t.root ∧ c ∈ (entryFinding t.source goMethod).capabilities ∧
      ∃ d, Doclet.ofComment "p.js" t.source (targets t.source t.root) cm = some d ∧
        d ∈ docletsOfTree "p.js" t ∧ d.toJson.get? "id" = some (.str "go") ∧
        d.toJson.get? "longname" = some (.str "go") ∧ d.kind = "function" := by
  intro text cm t c
  have hshape : TreeShape t.source t.root :=
    ⟨by decide +kernel, by decide +kernel, by decide +kernel, by decide +kernel⟩
  have hc : c ∈ (entryFinding t.source goMethod).capabilities := by decide +kernel
  have ho : goObject ∈ (occurrences [] t.root).map Prod.fst :=
    List.mem_map.2 ⟨_, mem_occurrences_of_child (List.mem_singleton.2 rfl)
      (mem_occurrences_of_child (List.mem_singleton.2 rfl)
        (mem_occurrences_of_child
          (List.mem_cons_of_mem _ (List.mem_cons_of_mem _ List.mem_cons_self))
          (mem_occurrences.2 (Or.inl rfl)))), rfl⟩
  have hP : goMethod ∈ objectEntries goObject :=
    List.mem_filter.2 ⟨List.mem_filter.2 ⟨List.mem_cons_of_mem _ (List.mem_cons_of_mem _
      (List.mem_cons_of_mem _ List.mem_cons_self)), rfl⟩, rfl⟩
  have hgap : t.source.slice? 26 29 = some "\n  " := by decide +kernel
  -- over `List.all`: a bounded `∀` over characters may be decided by enumerating them all
  have hwhite : ∀ ch ∈ "\n  ".toList, isWhite ch = true :=
    List.all_eq_true.1 (by decide +kernel)
  have hnaming : ∀ tag ∈ (DocBlock.parse "* Go. ").tags, tag.1 ∉ namingTitles := by
    decide +kernel
  obtain ⟨-, d, hd, hmem, hid, hlong, -, hfun, -⟩ :=
    propertyDoclet_matches_capability "p.js" rfl hshape ho rfl hP hc (List.mem_singleton.2 rfl)
      (by decide +kernel) hgap hwhite hnaming
  exact ⟨hshape, hc, d, hd, hmem, hid, hlong, hfun.2 (Or.inl rfl)⟩

end PluginLens.Docs
