import PluginLens.Proofs.Binding
import PluginLens.Proofs.Offsets

/-!
# Where capabilities lie in the text

A capability reports the span of its value and the value's text. This module shows that the
spans of a resolved binding are sound in every tree that has the shape tree-sitter guarantees:
every capability covers a nonempty range between character boundaries, its text is the text of
that range, and the capabilities, like the skipped entries, come in source order without
overlap. That holds across several `return` statements of a function, across several
declarations of one name merged by a strategy, and for methods, whose span runs from the start
of the parameters to the end of the body.

The shape (`Node.wellFormed`) is what a concrete syntax tree promises: every node covers at
least one byte, between character boundaries; its children lie inside it, in order and without
overlap; and a method's parameters come before its body, as the grammar orders them. Every walk
of the binding stage goes from a node to nodes inside it, in order, so one lemma about
concatenating in-order findings (`Extraction.Within.flatMap`) carries each step, and the main
statement is `resolveBinding_spans`.
-/

namespace PluginLens

open PluginLens.Text PluginLens.Syntax

namespace Span

/-- `a` ends before `b` starts. -/
def Before (a b : Span) : Prop := a.stop ≤ b.start

/-- `a` lies inside `b`. -/
def Inside (a b : Span) : Prop := b.start ≤ a.start ∧ a.stop ≤ b.stop

/-- A span covers at least one byte and starts and stops on character boundaries. -/
def Sound (src : Source) (a : Span) : Prop :=
  a.start < a.stop ∧ src.isBoundary a.start = true ∧ src.isBoundary a.stop = true

instance (a b : Span) : Decidable (a.Before b) := inferInstanceAs (Decidable (a.stop ≤ b.start))

theorem Inside.trans {a b c : Span} (hab : a.Inside b) (hbc : b.Inside c) : a.Inside c :=
  ⟨Nat.le_trans hbc.1 hab.1, Nat.le_trans hab.2 hbc.2⟩

theorem Inside.refl (a : Span) : a.Inside a := ⟨Nat.le_refl _, Nat.le_refl _⟩

theorem Before.of_inside {a a' b b' : Span} (h : a'.Before b') (ha : a.Inside a')
    (hb : b.Inside b') : a.Before b :=
  Nat.le_trans ha.2 (Nat.le_trans h hb.1)

end Span

namespace Syntax.Node

/-- The parameters of the node come before its body. -/
def paramsBeforeBody (n : Node) : Bool :=
  (n.child? "parameters").all fun p => (n.child? "body").all fun b => decide (p.stop ≤ b.start)

mutual
/-- A node with the shape of a concrete syntax tree over `src`: it covers at least one byte,
between character boundaries; its children lie inside it, in order and without overlap; a
method's parameters come before its body; and so on down. -/
def wellFormed (src : Source) : Node → Bool
  | n@(.mk kind _ _ _ start stop children) =>
    decide (start < stop) && src.isBoundary start && src.isBoundary stop &&
      children.all (fun c => decide (start ≤ c.start ∧ c.stop ≤ stop)) &&
      decide (children.Pairwise fun a b => (Span.ofNode a).Before (Span.ofNode b)) &&
      (kind != "method_definition" || n.paramsBeforeBody) &&
      wellFormedAmong src children

/-- Every node of the list is well formed. -/
def wellFormedAmong (src : Source) : List Node → Bool
  | [] => true
  | c :: cs => c.wellFormed src && wellFormedAmong src cs
end

/-- Nodes in source order, without overlap. -/
def InOrder (ns : List Node) : Prop := ns.Pairwise fun a b => (Span.ofNode a).Before (Span.ofNode b)

/-- `m` is a well-formed node inside `n`. -/
def Below (src : Source) (m n : Node) : Prop :=
  m.wellFormed src = true ∧ (Span.ofNode m).Inside (Span.ofNode n)

variable {src : Source}

theorem wellFormedAmong_iff {cs : List Node} :
    wellFormedAmong src cs = true ↔ ∀ c ∈ cs, c.wellFormed src = true := by
  induction cs with
  | nil => simp [wellFormedAmong]
  | cons c cs ih => simp [wellFormedAmong, ih]

theorem wellFormed_iff {n : Node} :
    n.wellFormed src = true ↔
      (Span.ofNode n).Sound src ∧
      (∀ c ∈ n.children, (Span.ofNode c).Inside (Span.ofNode n)) ∧
      InOrder n.children ∧
      (n.kind = "method_definition" → n.paramsBeforeBody = true) ∧
      ∀ c ∈ n.children, c.wellFormed src = true := by
  obtain ⟨kind, named, missing, field, start, stop, cs⟩ := n
  simp only [wellFormed, Bool.and_eq_true, decide_eq_true_eq, List.all_eq_true,
    wellFormedAmong_iff, Bool.or_eq_true, bne_iff_ne, ne_eq]
  simp only [Span.Sound, Span.Inside, Span.ofNode, InOrder, Node.children, Node.kind, Node.start,
    Node.stop]
  constructor
  · rintro ⟨⟨⟨⟨⟨⟨h1, h2⟩, h3⟩, h4⟩, h5⟩, h6⟩, h7⟩
    exact ⟨⟨h1, h2, h3⟩, h4, h5, fun hk => h6.resolve_left (not_not.2 hk), h7⟩
  · rintro ⟨⟨h1, h2, h3⟩, h4, h5, h6, h7⟩
    refine ⟨⟨⟨⟨⟨⟨h1, h2⟩, h3⟩, h4⟩, h5⟩, ?_⟩, h7⟩
    by_cases hk : kind = "method_definition"
    · exact Or.inr (h6 hk)
    · exact Or.inl hk

theorem WellFormed.sound {n : Node} (h : n.wellFormed src = true) : (Span.ofNode n).Sound src :=
  (wellFormed_iff.1 h).1

theorem WellFormed.inOrder {n : Node} (h : n.wellFormed src = true) : InOrder n.children :=
  (wellFormed_iff.1 h).2.2.1

theorem Below.refl {n : Node} (h : n.wellFormed src = true) : n.Below src n :=
  ⟨h, Span.Inside.refl _⟩

theorem Below.trans {a b c : Node} (hab : a.Below src b) (hbc : b.Below src c) : a.Below src c :=
  ⟨hab.1, hab.2.trans hbc.2⟩

theorem below_of_mem_children {n c : Node} (h : n.wellFormed src = true) (hc : c ∈ n.children) :
    c.Below src n :=
  ⟨(wellFormed_iff.1 h).2.2.2.2 c hc, (wellFormed_iff.1 h).2.1 c hc⟩

theorem mem_children_of_child? {n c : Node} {f : String} (h : n.child? f = some c) :
    c ∈ n.children :=
  List.mem_of_find?_eq_some h

theorem below_of_child? {n c : Node} {f : String} (h : n.wellFormed src = true)
    (hc : n.child? f = some c) : c.Below src n :=
  below_of_mem_children h (mem_children_of_child? hc)

mutual
theorem below_unparen : ∀ {n : Node}, n.wellFormed src = true → n.unparen.Below src n
  | .mk kind named missing field start stop cs, h => by
    unfold unparen
    split
    · split
      · rename_i inner hinner
        obtain ⟨c, hc, hbelow⟩ := below_firstNamedUnparen (fun c hc =>
          below_of_mem_children (n := .mk kind named missing field start stop cs) h hc) hinner
        exact hbelow
      · exact Below.refl h
    · exact Below.refl h

/-- The first named node of a list, looked through, lies inside the node it comes from. -/
theorem below_firstNamedUnparen {n : Node} :
    ∀ {cs : List Node} {u : Node}, (∀ c ∈ cs, c.Below src n) → firstNamedUnparen cs = some u →
      ∃ c ∈ cs, u.Below src n
  | [], _, _, hu => by simp [firstNamedUnparen] at hu
  | c :: cs, u, hcs, hu => by
    unfold firstNamedUnparen at hu
    split at hu
    · cases hu
      have hc := hcs c List.mem_cons_self
      exact ⟨c, List.mem_cons_self, (below_unparen hc.1).trans hc⟩
    · obtain ⟨c', hc', hbelow⟩ :=
        below_firstNamedUnparen (fun c hc => hcs c (List.mem_cons_of_mem _ hc)) hu
      exact ⟨c', List.mem_cons_of_mem _ hc', hbelow⟩
end

end Syntax.Node

open Syntax.Node (Below InOrder)

variable {src : Source}

/-! ## Findings inside a span -/

namespace Extraction

/-- The findings lie inside `sp`: each capability and each skipped entry covers a sound span
inside it, a capability's text is the text of its span, and both lists are in source order
without overlap. -/
structure Within (src : Source) (x : Extraction) (sp : Span) : Prop where
  capability : ∀ c ∈ x.capabilities,
    c.span.Sound src ∧ c.span.Inside sp ∧ c.sourceText = c.span.slice src
  skipped : ∀ s ∈ x.skipped, s.span.Sound src ∧ s.span.Inside sp
  capabilities_inOrder : x.capabilities.Pairwise fun c c' => c.span.Before c'.span
  skipped_inOrder : x.skipped.Pairwise fun s s' => s.span.Before s'.span

theorem Within.mono {x : Extraction} {sp sp' : Span} (h : x.Within src sp) (hs : sp.Inside sp') :
    x.Within src sp' where
  capability c hc :=
    ⟨(h.capability c hc).1, (h.capability c hc).2.1.trans hs, (h.capability c hc).2.2⟩
  skipped s hs' := ⟨(h.skipped s hs').1, (h.skipped s hs').2.trans hs⟩
  capabilities_inOrder := h.capabilities_inOrder
  skipped_inOrder := h.skipped_inOrder

theorem within_empty {sp : Span} : ({} : Extraction).Within src sp :=
  ⟨by simp, by simp, .nil, .nil⟩

theorem pairwise_flatMap_before {β : Type} (sp : β → Span) {ns : List Node} {g : Node → List β}
    (hord : InOrder ns) (hin : ∀ n ∈ ns, ∀ y ∈ g n, (sp y).Inside (Span.ofNode n))
    (hg : ∀ n ∈ ns, (g n).Pairwise fun y z => (sp y).Before (sp z)) :
    (ns.flatMap g).Pairwise fun y z => (sp y).Before (sp z) := by
  rw [List.pairwise_flatMap]
  refine ⟨hg, hord.imp_of_mem fun ha hb hab y hy z hz => ?_⟩
  exact Span.Before.of_inside hab (hin _ ha y hy) (hin _ hb z hz)

/-- The findings of nodes that come in source order inside `sp`, each inside its node, are
inside `sp` when concatenated. -/
theorem Within.flatMap {ns : List Node} {g : Node → Extraction} {sp : Span}
    (hord : InOrder ns) (hin : ∀ n ∈ ns, (Span.ofNode n).Inside sp)
    (hg : ∀ n ∈ ns, (g n).Within src (Span.ofNode n)) :
    (⟨ns.flatMap (g · |>.capabilities), ns.flatMap (g · |>.skipped)⟩ : Extraction).Within src sp
    where
  capability c hc := by
    obtain ⟨n, hn, hc⟩ := List.mem_flatMap.1 hc
    obtain ⟨hsound, hinside, htext⟩ := (hg n hn).capability c hc
    exact ⟨hsound, hinside.trans (hin n hn), htext⟩
  skipped s hs := by
    obtain ⟨n, hn, hs⟩ := List.mem_flatMap.1 hs
    obtain ⟨hsound, hinside⟩ := (hg n hn).skipped s hs
    exact ⟨hsound, hinside.trans (hin n hn)⟩
  capabilities_inOrder :=
    pairwise_flatMap_before (·.span) hord (fun n hn c hc => ((hg n hn).capability c hc).2.1)
      (fun n hn => (hg n hn).capabilities_inOrder)
  skipped_inOrder :=
    pairwise_flatMap_before (·.span) hord (fun n hn s hs => ((hg n hn).skipped s hs).2)
      (fun n hn => (hg n hn).skipped_inOrder)

end Extraction

open Extraction (Within within_empty)

/-! ## One entry of an object literal -/

section Entry

variable {p : Node}

theorem within_capability {sp : Span} {name : String} {kind : ValueKind} (hs : sp.Sound src)
    (hin : sp.Inside (Span.ofNode p)) :
    ({ capabilities := [Capability.over src name kind sp] } : Extraction).Within src
      (Span.ofNode p) :=
  ⟨by simp [Capability.over, hs, hin], by simp, List.pairwise_singleton _ _, .nil⟩

theorem within_skipped {r : SkipReason} (hs : (Span.ofNode p).Sound src) :
    ({ skipped := [⟨r, Span.ofNode p⟩] } : Extraction).Within src (Span.ofNode p) :=
  ⟨by simp, by simp [hs, Span.Inside.refl], .nil, List.pairwise_singleton _ _⟩

/-- A method's span runs from the start of its parameters to the end of its body; it is sound
and inside the method, because the grammar puts the parameters before the body. -/
theorem methodSpan_sound (h : p.wellFormed src = true) (hk : p.kind = "method_definition") :
    (⟨((p.child? "parameters").map (·.start)).getD p.start,
      ((p.child? "body").map (·.stop)).getD p.stop⟩ : Span).Sound src ∧
    (⟨((p.child? "parameters").map (·.start)).getD p.start,
      ((p.child? "body").map (·.stop)).getD p.stop⟩ : Span).Inside (Span.ofNode p) := by
  have hp := Syntax.Node.WellFormed.sound h
  have horder := (Syntax.Node.wellFormed_iff.1 h).2.2.2.1 hk
  simp only [Span.Sound, Span.Inside, Span.ofNode] at hp ⊢
  cases hpar : p.child? "parameters" with
  | none =>
    cases hbody : p.child? "body" with
    | none => simp [hp]
    | some body =>
      have hb := Syntax.Node.below_of_child? h hbody
      have hbs := Syntax.Node.WellFormed.sound hb.1
      have hbi := hb.2
      simp only [Span.Sound, Span.Inside, Span.ofNode] at hbs hbi
      simp only [Option.map_none, Option.getD_none, Option.map_some, Option.getD_some]
      exact ⟨⟨by omega, hp.2.1, hbs.2.2⟩, Nat.le_refl _, hbi.2⟩
  | some par =>
    have hq := Syntax.Node.below_of_child? h hpar
    have hqs := Syntax.Node.WellFormed.sound hq.1
    have hqi := hq.2
    simp only [Span.Sound, Span.Inside, Span.ofNode] at hqs hqi
    cases hbody : p.child? "body" with
    | none =>
      simp only [Option.map_none, Option.getD_none, Option.map_some, Option.getD_some]
      exact ⟨⟨by omega, hqs.2.1, hp.2.2⟩, hqi.1, Nat.le_refl _⟩
    | some body =>
      have hb := Syntax.Node.below_of_child? h hbody
      have hbs := Syntax.Node.WellFormed.sound hb.1
      have hbi := hb.2
      simp only [Span.Sound, Span.Inside, Span.ofNode] at hbs hbi
      have hpb : par.stop ≤ body.start := by
        simpa [Syntax.Node.paramsBeforeBody, hpar, hbody] using horder
      simp only [Option.map_some, Option.getD_some]
      exact ⟨⟨by omega, hqs.2.1, hbs.2.2⟩, hqi.1, hbi.2⟩

theorem keyFinding_within {x : Extraction} {sp : Span} (hp : (Span.ofNode p).Sound src)
    (hs : sp.Sound src) (hin : sp.Inside (Span.ofNode p))
    (hx : (∃ name kind, x = { capabilities := [Capability.over src name kind sp] }) ∨
      x = { skipped := [⟨.computedKey, Span.ofNode p⟩] }) :
    x.Within src (Span.ofNode p) := by
  rcases hx with ⟨name, kind, rfl⟩ | rfl
  · exact within_capability hs hin
  · exact within_skipped hp

/-- Each entry of an object literal finds something inside itself: a capability over its value,
over its parameters and body, or over itself, or a skipped entry over itself. -/
theorem entryFinding_within (h : p.wellFormed src = true) :
    (entryFinding src p).Within src (Span.ofNode p) := by
  have hp := Syntax.Node.WellFormed.sound h
  unfold entryFinding
  split
  · split
    · rename_i v _ hv
      have hvalue := Syntax.Node.below_of_child? h hv
      have hinner := (Syntax.Node.below_unparen hvalue.1).trans hvalue
      refine keyFinding_within hp (Syntax.Node.WellFormed.sound hinner.1) hinner.2 ?_
      dsimp only
      split
      · exact Or.inl ⟨_, _, rfl⟩
      · exact Or.inr rfl
    · exact within_empty
  · rename_i hk
    split
    · refine keyFinding_within hp (methodSpan_sound h hk).1 (methodSpan_sound h hk).2 ?_
      dsimp only
      split
      · exact Or.inl ⟨_, _, rfl⟩
      · exact Or.inr rfl
    · exact within_empty
  · exact within_capability hp (Span.Inside.refl _)
  · exact within_skipped hp
  · exact within_empty

end Entry

/-! ## Objects, returns and functions -/

section Walks

open Syntax.Node (below_of_child? below_of_mem_children below_unparen)

theorem objectEntries_below {o : Node} (h : o.wellFormed src = true) :
    (∀ e ∈ objectEntries o, e.Below src o) ∧ InOrder (objectEntries o) := by
  have hsub : (objectEntries o).Sublist o.children :=
    (List.filter_sublist).trans List.filter_sublist
  exact ⟨fun e he => below_of_mem_children h (hsub.subset he),
    (Syntax.Node.WellFormed.inOrder h).sublist hsub⟩

theorem objectFindings_within {o : Node} (h : o.wellFormed src = true) :
    (objectFindings src o).Within src (Span.ofNode o) := by
  obtain ⟨hbelow, hord⟩ := objectEntries_below h
  rw [objectFindings_eq]
  exact Extraction.Within.flatMap hord (fun e he => (hbelow e he).2)
    (fun e he => entryFinding_within (hbelow e he).1)

theorem below_of_objectLiteral? {n o : Node} (h : n.wellFormed src = true)
    (ho : n.objectLiteral? = some o) : o.Below src n := by
  simp only [Syntax.Node.objectLiteral?] at ho
  split at ho
  · cases ho
    exact below_unparen h
  · cases ho

mutual
/-- The `return` statements of a node lie inside it, in source order. -/
theorem returnsUnder_below : ∀ {n : Node}, n.wellFormed src = true →
    (∀ r ∈ n.returnsUnder, r.Below src n) ∧ InOrder n.returnsUnder
  | .mk kind named missing field start stop cs, h => by
    unfold Syntax.Node.returnsUnder
    split
    · refine ⟨fun r hr => ?_, List.pairwise_singleton _ _⟩
      rw [List.mem_singleton] at hr
      subst hr
      exact Syntax.Node.Below.refl h
    · obtain ⟨hin, hord⟩ := returnsAmong_below
        (fun c hc => (below_of_mem_children (n := .mk kind named missing field start stop cs) h
          hc).1) (Syntax.Node.WellFormed.inOrder h)
      refine ⟨fun r hr => ?_, hord⟩
      obtain ⟨c, hc, hrc⟩ := hin r hr
      exact hrc.trans (below_of_mem_children h hc)

/-- The `return` statements under nodes that come in source order lie inside them, in source
order. -/
theorem returnsAmong_below : ∀ {cs : List Node}, (∀ c ∈ cs, c.wellFormed src = true) →
    InOrder cs →
    (∀ r ∈ Syntax.Node.returnsAmong cs, ∃ c ∈ cs, r.Below src c) ∧
      InOrder (Syntax.Node.returnsAmong cs)
  | [], _, _ => by simp [Syntax.Node.returnsAmong, InOrder]
  | c :: cs, hwf, hord => by
    have hc : c.wellFormed src = true := hwf c List.mem_cons_self
    obtain ⟨hcb, hcs⟩ := List.pairwise_cons.1 hord
    obtain ⟨hin, hrest⟩ :=
      returnsAmong_below (fun c' hc' => hwf c' (List.mem_cons_of_mem _ hc')) hcs
    have hhere : (∀ r ∈ (if c.named && c.kind != "comment" && !isScopeBoundary c.kind then
          c.returnsUnder else []), r.Below src c) ∧
        InOrder (if c.named && c.kind != "comment" && !isScopeBoundary c.kind then
          c.returnsUnder else []) := by
      split
      · exact returnsUnder_below hc
      · exact ⟨by simp, List.Pairwise.nil⟩
    unfold Syntax.Node.returnsAmong
    refine ⟨fun r hr => ?_, ?_⟩
    · rcases List.mem_append.1 hr with hr | hr
      · exact ⟨c, List.mem_cons_self, hhere.1 r hr⟩
      · obtain ⟨c', hc', hrc'⟩ := hin r hr
        exact ⟨c', List.mem_cons_of_mem _ hc', hrc'⟩
    · refine List.pairwise_append.2 ⟨hhere.2, hrest, fun r hr r' hr' => ?_⟩
      obtain ⟨c', hc', hrc'⟩ := hin r' hr'
      exact Span.Before.of_inside (hcb c' hc') (hhere.1 r hr).2 hrc'.2
end

theorem returnFindings_within {r : Node} (h : r.wellFormed src = true) :
    (returnFindings src r).Within src (Span.ofNode r) := by
  unfold returnFindings
  cases hfound : r.returnArgument?.bind Syntax.Node.objectLiteral? with
  | none => exact within_empty
  | some o =>
    obtain ⟨a, harg, hobj⟩ := Option.bind_eq_some_iff.1 hfound
    have ha : a.Below src r := by
      unfold Syntax.Node.returnArgument? Syntax.Node.firstNamed? at harg
      split at harg
      · exact below_of_mem_children h (List.mem_of_find?_eq_some harg)
      · cases harg
    have ho := (below_of_objectLiteral? ha.1 hobj).trans ha
    exact (objectFindings_within ho.1).mono ho.2

/-- The findings of a function lie inside it, in source order, over all its own `return`
statements. -/
theorem extractFromFunction_within {f : Node} (h : f.wellFormed src = true) :
    (extractFromFunction src f).Within src (Span.ofNode f) := by
  rw [extractFromFunction_eq]
  unfold Syntax.Node.returnsOf
  cases hbody : f.child? "body" with
  | none => exact within_empty
  | some body =>
    have hb := below_of_child? h hbody
    obtain ⟨hin, hord⟩ := returnsUnder_below hb.1
    exact Extraction.Within.flatMap hord (fun r hr => ((hin r hr).trans hb).2)
      (fun r hr => returnFindings_within (hin r hr).1)

end Walks

/-! ## Strategies -/

section Strategies

open Syntax.Node (below_of_child? below_of_mem_children below_unparen)

variable {stmts : List Node} {d : ExportDescriptor} {b : ResolvedBinding} {sp : Span}

theorem inOrder_filterMap {ns : List Node} {m : Node → Option Node} (hord : InOrder ns)
    (hm : ∀ n ∈ ns, ∀ x, m n = some x → (Span.ofNode x).Inside (Span.ofNode n)) :
    InOrder (ns.filterMap m) := by
  unfold InOrder
  rw [List.pairwise_filterMap]
  exact hord.imp_of_mem fun ha hb hab x hx y hy =>
    Span.Before.of_inside hab (hm _ ha x hx) (hm _ hb y hy)

theorem below_of_defaultExported? {s f : Node} (h : s.wellFormed src = true)
    (hf : s.defaultExported? = some f) : f.Below src s := by
  unfold Syntax.Node.defaultExported? at hf
  split at hf
  · rename_i decl hdecl
    cases hf
    exact below_of_child? h hdecl
  · obtain ⟨v, hv, rfl⟩ := Option.map_eq_some_iff.1 hf
    have hvalue := below_of_child? h hv
    exact (below_unparen hvalue.1).trans hvalue

/-- The function a statement declares is the statement itself or lies inside it. -/
theorem below_of_declaredFunction? {s f : Node} (h : s.wellFormed src = true)
    (hf : s.declaredFunction? = some f) : f.Below src s := by
  unfold Syntax.Node.declaredFunction? at hf
  split at hf
  · cases hf
    exact Syntax.Node.Below.refl h
  · split at hf
    · cases hf
    · split at hf
      · rename_i g hg
        split at hf
        · cases hf
          exact below_of_defaultExported? h hg
        · cases hf
      · cases hf

theorem declaratorsOf_below {s : Node} (h : s.wellFormed src = true) :
    (∀ x ∈ s.declaratorsOf, x.Below src s) ∧ InOrder s.declaratorsOf := by
  unfold Syntax.Node.declaratorsOf
  split
  · have hsub : (s.namedChildren.filter (·.kind == "variable_declarator")).Sublist s.children :=
      List.filter_sublist.trans List.filter_sublist
    exact ⟨fun x hx => below_of_mem_children h (hsub.subset hx),
      (Syntax.Node.WellFormed.inOrder h).sublist hsub⟩
  · exact ⟨by simp, List.Pairwise.nil⟩

theorem extractFromInitializer_within {x : Node} (h : x.wellFormed src = true) :
    (extractFromInitializer src (x.child? "value")).Within src (Span.ofNode x) := by
  unfold extractFromInitializer
  cases hfound : (x.child? "value").bind Syntax.Node.objectLiteral? with
  | none => exact within_empty
  | some o =>
    obtain ⟨v, hv, ho⟩ := Option.bind_eq_some_iff.1 hfound
    have hvalue := below_of_child? h hv
    have hobj := (below_of_objectLiteral? hvalue.1 ho).trans hvalue
    exact (objectFindings_within hobj.1).mono hobj.2

section Statements

variable (hwf : ∀ s ∈ stmts, s.wellFormed src = true) (hord : InOrder stmts)
  (hin : ∀ s ∈ stmts, (Span.ofNode s).Inside sp)
include hwf hord hin

theorem resolveFunction_within (h : resolveFunction src stmts d = some b) :
    b.extraction.Within src sp := by
  rw [resolveFunction_eq] at h
  obtain ⟨f, -, rfl⟩ := Option.map_eq_some_iff.1 h
  have hfs : ∀ s ∈ stmts, ∀ f, matchedFunction? src d s = some f → f.Below src s :=
    fun s hs f hf => below_of_declaredFunction? (hwf s hs) (Option.filter_eq_some_iff.1 hf).1
  refine Extraction.Within.flatMap (inOrder_filterMap hord fun s hs f hf => (hfs s hs f hf).2)
    (fun f hf => ?_) (fun f hf => ?_)
  · obtain ⟨s, hs, hsf⟩ := List.mem_filterMap.1 hf
    exact (hfs s hs f hsf).2.trans (hin s hs)
  · obtain ⟨s, hs, hsf⟩ := List.mem_filterMap.1 hf
    exact extractFromFunction_within (hfs s hs f hsf).1

/-- The variable strategy finds only inside the statements, in order. -/
theorem resolveVariable_within (h : resolveVariable src stmts d = some b) :
    b.extraction.Within src sp := by
  unfold resolveVariable at h
  split at h
  · cases h
  · rw [foldl_mergeFound] at h
    obtain ⟨x, -, rfl⟩ := Option.map_eq_some_iff.1 h
    have hall : ∀ x ∈ stmts.flatMap Syntax.Node.declaratorsOf, ∃ s ∈ stmts, x.Below src s := by
      intro x hx
      obtain ⟨s, hs, hxs⟩ := List.mem_flatMap.1 hx
      exact ⟨s, hs, (declaratorsOf_below (hwf s hs)).1 x hxs⟩
    have hordAll : InOrder (stmts.flatMap Syntax.Node.declaratorsOf) :=
      Extraction.pairwise_flatMap_before Span.ofNode hord
        (fun s hs x hx => ((declaratorsOf_below (hwf s hs)).1 x hx).2)
        (fun s hs => (declaratorsOf_below (hwf s hs)).2)
    refine Extraction.Within.flatMap (hordAll.filter _) (fun x hx => ?_) (fun x hx => ?_)
    · obtain ⟨s, hs, hxs⟩ := hall x (List.mem_filter.1 hx).1
      exact hxs.2.trans (hin s hs)
    · obtain ⟨s, -, hxs⟩ := hall x (List.mem_filter.1 hx).1
      exact extractFromInitializer_within hxs.1

theorem resolveBinding_within (h : resolveBinding src stmts d = .ok b) :
    b.extraction.Within src sp := by
  obtain ⟨k, hk', hk⟩ := resolveBindingWith_mem h
  simp only [defaultStrategies, List.mem_cons, List.not_mem_nil, or_false] at hk'
  rcases hk' with rfl | rfl
  · exact resolveFunction_within hwf hord hin hk
  · exact resolveVariable_within hwf hord hin hk

end Statements

end Strategies

/-- The capabilities of a resolved binding, in every well-formed tree of a text, for every export
slot and every primary export: each covers a range between character boundaries, within the
text, whose text is exactly its source text; they come in strictly increasing order of their
start, without overlap; and so do the skipped entries. -/
theorem resolveBinding_spans {text : String} {stmts : List Node} {d : ExportDescriptor}
    {b : ResolvedBinding} (hwf : ∀ s ∈ stmts, s.wellFormed (Source.ofString text) = true)
    (hord : stmts.Pairwise fun s t => s.stop ≤ t.start)
    (h : resolveBinding (Source.ofString text) stmts d = .ok b) :
    (∀ c ∈ b.extraction.capabilities,
      c.span.start ≤ c.span.stop ∧ c.span.stop ≤ (Source.ofString text).byteSize ∧
      (Source.ofString text).isBoundary c.span.start = true ∧
      (Source.ofString text).isBoundary c.span.stop = true ∧
      (Source.ofString text).slice? c.span.start c.span.stop = some c.sourceText) ∧
    b.extraction.capabilities.Pairwise
      (fun c c' => c.span.stop ≤ c'.span.start ∧ c.span.start < c'.span.start) ∧
    b.extraction.skipped.Pairwise
      (fun s s' => s.span.stop ≤ s'.span.start ∧ s.span.start < s'.span.start) := by
  have hin : ∀ s ∈ stmts, (Span.ofNode s).Inside ⟨0, (Source.ofString text).byteSize⟩ :=
    fun s hs => ⟨Nat.zero_le _,
      Source.le_byteSize_of_isBoundary text (Syntax.Node.WellFormed.sound (hwf s hs)).2.2⟩
  have hw := resolveBinding_within hwf hord hin h
  refine ⟨fun c hc => ?_, ?_, ?_⟩
  · obtain ⟨⟨hlt, hs, he⟩, ⟨-, hle⟩, htext⟩ := hw.capability c hc
    refine ⟨Nat.le_of_lt hlt, hle, hs, he, ?_⟩
    rw [htext, Span.slice, Source.slice?_of_isBoundary text hs he (Nat.le_of_lt hlt)]
  · exact hw.capabilities_inOrder.imp_of_mem fun hc _ hbefore =>
      ⟨hbefore, Nat.lt_of_lt_of_le (hw.capability _ hc).1.1 hbefore⟩
  · exact hw.skipped_inOrder.imp_of_mem fun hs _ hbefore =>
      ⟨hbefore, Nat.lt_of_lt_of_le (hw.skipped _ hs).1.1 hbefore⟩

/-- `function p(){return{a(){},b:1}}`, as read. -/
def methodPlugin : Node :=
  .mk "function_declaration" true false none 0 31
    [.mk "function" false false none 0 8 [],
     .mk "identifier" true false (some "name") 9 10 [],
     .mk "formal_parameters" true false (some "parameters") 10 12
       [.mk "(" false false none 10 11 [], .mk ")" false false none 11 12 []],
     .mk "statement_block" true false (some "body") 12 31
       [.mk "\x7b" false false none 12 13 [],
        .mk "return_statement" true false none 13 30
          [.mk "return" false false none 13 19 [],
           .mk "object" true false none 19 30
             [.mk "\x7b" false false none 19 20 [],
              .mk "method_definition" true false none 20 25
                [.mk "property_identifier" true false (some "name") 20 21 [],
                 .mk "formal_parameters" true false (some "parameters") 21 23
                   [.mk "(" false false none 21 22 [], .mk ")" false false none 22 23 []],
                 .mk "statement_block" true false (some "body") 23 25
                   [.mk "\x7b" false false none 23 24 [], .mk "\x7d" false false none 24 25 []]],
              .mk "," false false none 25 26 [],
              .mk "pair" true false none 26 29
                [.mk "property_identifier" true false (some "key") 26 27 [],
                 .mk ":" false false none 27 28 [],
                 .mk "number" true false (some "value") 28 29 []],
              .mk "\x7d" false false none 29 30 []]],
        .mk "\x7d" false false none 30 31 []]]

theorem resolveBinding_methodPlugin_spans :
    let src := Source.ofString "function p()\x7breturn\x7ba()\x7b\x7d,b:1\x7d\x7d"
    let d : ExportDescriptor :=
      { isPrimary := true, exportedName := some "p", renderedStatement := "module.exports = p"
        form := .assignment, span := ⟨32, 50⟩ }
    let b : ResolvedBinding :=
      { name := some "p", kind := .function, span := ⟨0, 31⟩
        extraction :=
          { capabilities := [⟨"a", .function, "()\x7b\x7d", ⟨21, 25⟩⟩, ⟨"b", .literal, "1", ⟨28, 29⟩⟩]
            skipped := [] } }
    (∀ s ∈ [methodPlugin], s.wellFormed src = true) ∧
      [methodPlugin].Pairwise (fun s t => s.stop ≤ t.start) ∧
      resolveBinding src [methodPlugin] d = .ok b ∧
      (∀ c ∈ b.extraction.capabilities,
        c.span.start ≤ c.span.stop ∧ c.span.stop ≤ src.byteSize ∧
        src.isBoundary c.span.start = true ∧ src.isBoundary c.span.stop = true ∧
        src.slice? c.span.start c.span.stop = some c.sourceText) ∧
      b.extraction.capabilities.Pairwise
        (fun c c' => c.span.stop ≤ c'.span.start ∧ c.span.start < c'.span.start) ∧
      b.extraction.skipped.Pairwise
        (fun s s' => s.span.stop ≤ s'.span.start ∧ s.span.start < s'.span.start) := by
  intro src d b
  have hwf : ∀ s ∈ [methodPlugin], s.wellFormed src = true := by decide +kernel
  have hord : [methodPlugin].Pairwise (fun s t => s.stop ≤ t.start) := by decide
  have hres : resolveBinding src [methodPlugin] d = .ok b := by decide +kernel
  exact ⟨hwf, hord, hres, resolveBinding_spans hwf hord hres⟩

end PluginLens
