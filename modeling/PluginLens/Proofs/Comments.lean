import PluginLens.Proofs.Spans
import PluginLens.Proofs.Extraction

/-!
# The comments of a tree

A tree keeps its comments as leaves, and `commentsOf` reads them off with a walk over an
explicit stack of pending nodes (`Node.commentWalk`): the node on top is popped; a comment is
taken and not entered, and any other node is replaced by its named children, the first of them
on top. Each comment is then read from its bytes: a line comment loses its `//`, a block comment
its `/*` and `*/`.

The walk over a stack is the walk from each pending node in turn (`commentWalk_append`), so
from one node it is the node itself when it is a comment and otherwise the walks from its named
children in order. In a tree of the shape tree-sitter builds, where comments and anonymous
tokens are leaves, that lists every comment of the tree once, in document pre-order
(`commentWalk_preorder`); in a tree whose spans are well formed, what the walk lists lies
inside the tree, in source order without overlap (`commentWalk_below`), so the comments start
at strictly increasing offsets. The main statement is `commentsOf_documentOrder`.
-/

namespace PluginLens.Syntax

open PluginLens.Text

namespace Node

/-! ## The walk over a stack -/

theorem commentWalk_comment {n : Node} (h : n.kind = "comment") (rest : List Node) :
    commentWalk (n :: rest) = n :: commentWalk rest := by
  rw [commentWalk, if_pos (by simp [h])]

theorem commentWalk_other {n : Node} (h : n.kind ≠ "comment") (rest : List Node) :
    commentWalk (n :: rest) = commentWalk (n.namedChildren ++ rest) := by
  rw [commentWalk, if_neg (by simp [h])]

theorem commentWalk_append (top : List Node) :
    ∀ rest, commentWalk (top ++ rest) = commentWalk top ++ commentWalk rest := by
  induction top using commentWalk.induct with
  | case1 => intro rest; rw [List.nil_append, commentWalk, List.nil_append]
  | case2 n ns hc ih =>
    intro rest
    have hc : n.kind = "comment" := by simpa using hc
    rw [List.cons_append, commentWalk_comment hc, commentWalk_comment hc, ih, List.cons_append]
  | case3 n ns hc ih =>
    intro rest
    have hc : n.kind ≠ "comment" := by simpa using hc
    rw [List.cons_append, commentWalk_other hc, commentWalk_other hc, ← List.append_assoc, ih]

theorem commentWalk_eq_flatMap (stack : List Node) :
    commentWalk stack = stack.flatMap fun c => commentWalk [c] := by
  induction stack with
  | nil => rw [commentWalk, List.flatMap_nil]
  | cons c cs ih => rw [List.flatMap_cons, ← ih, ← commentWalk_append, List.singleton_append]

/-- The walk from one node: the node itself when it is a comment, and otherwise the walks from
its named children in order. -/
theorem commentWalk_singleton (n : Node) :
    commentWalk [n] =
      if n.kind = "comment" then [n] else n.namedChildren.flatMap fun c => commentWalk [c] := by
  by_cases h : n.kind = "comment"
  · rw [if_pos h, commentWalk_comment h, commentWalk]
  · rw [if_neg h, commentWalk_other h, List.append_nil, commentWalk_eq_flatMap]

/-! ## Document pre-order -/

/-- The nodes of a tree in document pre-order: a node, then the nodes below each of its
children in turn. -/
def preorder (n : Node) : List Node := (occurrences [] n).map (·.1)

theorem map_fst_occurrencesAmong (cs : List Node) :
    (occurrencesAmong [] cs).map (·.1) = cs.flatMap preorder := by
  induction cs with
  | nil => rfl
  | cons c cs ih => rw [occurrencesAmong, List.map_append, ih, List.flatMap_cons]; rfl

theorem preorder_eq (n : Node) : n.preorder = n :: n.children.flatMap preorder := by
  rw [preorder, occurrences_eq_cons, occurrencesAmong_cons_above, List.map_cons, List.map_map,
    ← map_fst_occurrencesAmong]
  rfl

theorem preorder_of_mem_children {n c m : Node} (hc : c ∈ n.children) (hm : m ∈ c.preorder) :
    m ∈ n.preorder := by
  rw [preorder_eq, List.mem_cons, List.mem_flatMap]
  exact .inr ⟨c, hc, hm⟩

/-- The shape tree-sitter gives its trees: comments are named leaves, and anonymous tokens are
leaves. -/
def LeafComments (n : Node) : Prop :=
  ∀ m ∈ n.preorder, (m.kind = "comment" → m.named = true ∧ m.children.isEmpty = true) ∧
    (m.named = false → m.children.isEmpty = true)

instance (n : Node) : Decidable n.LeafComments :=
  inferInstanceAs (Decidable (∀ m ∈ n.preorder, _ ∧ _))

theorem LeafComments.of_mem_children {n c : Node} (h : n.LeafComments) (hc : c ∈ n.children) :
    c.LeafComments :=
  fun m hm => h m (preorder_of_mem_children hc hm)

theorem filter_preorder_leaf {c : Node} (hc : c.children.isEmpty = true)
    (hk : c.kind ≠ "comment") : c.preorder.filter (·.kind == "comment") = [] := by
  rw [preorder_eq, List.isEmpty_iff.1 hc]
  simp [hk]

theorem flatMap_filter_eq {p : Node → Bool} {f g : Node → List Node} :
    ∀ {cs : List Node}, (∀ c ∈ cs, p c = true → f c = g c) → (∀ c ∈ cs, p c = false → g c = []) →
      (cs.filter p).flatMap f = cs.flatMap g
  | [], _, _ => rfl
  | c :: cs, hkept, hdropped => by
    have ih := flatMap_filter_eq (fun c' hc' => hkept c' (List.mem_cons_of_mem c hc'))
      (fun c' hc' => hdropped c' (List.mem_cons_of_mem c hc'))
    by_cases hc : p c = true
    · rw [List.filter_cons_of_pos hc, List.flatMap_cons, List.flatMap_cons, ih,
        hkept c List.mem_cons_self hc]
    · rw [List.filter_cons_of_neg hc, ih, List.flatMap_cons,
        hdropped c List.mem_cons_self (by simpa using hc), List.nil_append]

/-- In a tree of tree-sitter's shape the walk lists every comment once, in document
pre-order. -/
theorem commentWalk_preorder (n : Node) (h : n.LeafComments) :
    commentWalk [n] = n.preorder.filter (·.kind == "comment") := by
  induction n using children_induction with
  | step n ih =>
    obtain ⟨hcomment, -⟩ := h n (by rw [preorder_eq]; exact List.mem_cons_self)
    rw [commentWalk_singleton, preorder_eq, List.filter_cons]
    by_cases hk : n.kind = "comment"
    · -- a comment is a leaf: it is the only comment of its own preorder
      rw [if_pos hk, if_pos (by simp [hk]), List.isEmpty_iff.1 (hcomment hk).2]
      rfl
    · -- the anonymous children are leaves that hold no comment, so the named ones give them all
      rw [if_neg hk, if_neg (by simp [hk]), List.filter_flatMap, namedChildren]
      refine flatMap_filter_eq (fun c hc _ => ih c hc (h.of_mem_children hc)) fun c hc hn => ?_
      have hcl := h.of_mem_children hc c (by rw [preorder_eq]; exact List.mem_cons_self)
      refine filter_preorder_leaf (hcl.2 hn) fun hkc => ?_
      rw [(hcl.1 hkc).1] at hn
      cases hn

/-! ## Source order -/

/-- In a tree whose spans are well formed, what the walk lists lies inside the tree, in source
order and without overlap. -/
theorem commentWalk_below {src : Source} {n : Node} (h : n.wellFormed src = true) :
    (∀ m ∈ commentWalk [n], m.Below src n) ∧ InOrder (commentWalk [n]) := by
  induction n using children_induction with
  | step n ih =>
    rw [commentWalk_singleton]
    split
    · refine ⟨fun m hm => ?_, List.pairwise_singleton _ _⟩
      rw [List.mem_singleton.1 hm]
      exact Below.refl h
    · have hbelow : ∀ c ∈ n.namedChildren, c.Below src n :=
        fun c hc => below_of_mem_children h (List.mem_of_mem_filter hc)
      have hc : ∀ c ∈ n.namedChildren, (∀ m ∈ commentWalk [c], m.Below src c) ∧
          InOrder (commentWalk [c]) :=
        fun c hc' => ih c (List.mem_of_mem_filter hc') (hbelow c hc').1
      have hord : InOrder n.namedChildren := (WellFormed.inOrder h).sublist List.filter_sublist
      refine ⟨fun m hm => ?_, Extraction.pairwise_flatMap_before Span.ofNode hord
        (fun c hc' m hm => ((hc c hc').1 m hm).2) fun c hc' => (hc c hc').2⟩
      obtain ⟨c, hc', hmc⟩ := List.mem_flatMap.1 hm
      exact ((hc c hc').1 m hmc).trans (hbelow c hc')

/-- In a tree whose spans are well formed, the walk lists nodes at strictly increasing
offsets. -/
theorem commentWalk_start_lt {src : Source} {n : Node} (h : n.wellFormed src = true) :
    (commentWalk [n]).Pairwise fun a b => a.start < b.start := by
  obtain ⟨hin, hord⟩ := commentWalk_below h
  refine hord.imp_of_mem fun ha _ hbefore => ?_
  exact Nat.lt_of_lt_of_le (WellFormed.sound (hin _ ha).1).1 hbefore

end Node

/-! ## Reading a comment -/

namespace Comment

variable (src : Source) (a b : Nat)

theorem ofSpan_start : (ofSpan src a b).start = a := by
  simp only [ofSpan]
  split <;> rfl

theorem ofSpan_stop : (ofSpan src a b).stop = b := by
  simp only [ofSpan]
  split <;> rfl

theorem endsWith_iff_suffix (s pat : String) : s.endsWith pat = true ↔ pat.toList <:+ s.toList := by
  rw [String.endsWith, String.Slice.endsWith_string_eq_endsWith_toSlice,
    String.Slice.endsWith_slice_iff]
  simp

theorem ofSpan_kind_eq_line_iff :
    (ofSpan src a b).kind = .line ↔ (src.slice a b).startsWith "//" = true := by
  simp only [ofSpan]
  split <;> simp_all

theorem ofSpan_line (h : (src.slice a b).startsWith "//" = true) :
    src.slice a b = "//" ++ (ofSpan src a b).text := by
  obtain ⟨t, ht⟩ := String.startsWith_string_iff.1 h
  simp only [ofSpan, h, if_true]
  apply String.toList_inj.1
  simp [← ht]

/-- A block comment's text is what lies between its `/*` and `*/`. -/
theorem ofSpan_block {t : String} (h : src.slice a b = "/*" ++ t ++ "*/") :
    (ofSpan src a b).kind = .block ∧ (ofSpan src a b).text = t := by
  have hline : (src.slice a b).startsWith "//" = false := by
    rw [String.startsWith_string_eq_false_iff, h]
    simp
  have hopen : (src.slice a b).startsWith "/*" = true := by
    rw [String.startsWith_string_iff, h]
    simp
  have hclose : ((src.slice a b).drop 2).toString.endsWith "*/" = true := by
    rw [endsWith_iff_suffix]
    simp [h]
  simp only [ofSpan, hline, hopen, hclose, Bool.false_eq_true, if_false, if_true]
  refine ⟨trivial, String.toList_inj.1 ?_⟩
  simp [h]

end Comment

/-! ## The comments of a tree -/

/-- The comments of a tree. In a tree of tree-sitter's shape they are its comment nodes, each
once, in document pre-order; in a tree whose spans are well formed they start at strictly
increasing offsets. Each is read from its bytes: it is a line comment exactly when they start
with `//`, and its text is what follows; a comment `/*t*/` is a block comment with text `t`. -/
theorem commentsOf_documentOrder (src : Source) (root : Node) :
    (root.LeafComments → commentsOf src root =
      (root.preorder.filter (·.kind == "comment")).map fun n => Comment.ofSpan src n.start n.stop) ∧
    (root.wellFormed src = true → (commentsOf src root).Pairwise fun a b => a.start < b.start) ∧
    ∀ c ∈ commentsOf src root,
      (c.kind = .line ↔ (src.slice c.start c.stop).startsWith "//" = true) ∧
      (c.kind = .line → src.slice c.start c.stop = "//" ++ c.text) ∧
      ∀ t, src.slice c.start c.stop = "/*" ++ t ++ "*/" → c.kind = .block ∧ c.text = t := by
  refine ⟨fun h => by rw [commentsOf, Node.commentWalk_preorder root h], fun h => ?_, ?_⟩
  · rw [commentsOf, List.pairwise_map]
    refine (Node.commentWalk_start_lt h).imp fun hab => ?_
    rwa [Comment.ofSpan_start, Comment.ofSpan_start]
  · intro c hc
    obtain ⟨n, -, rfl⟩ := List.mem_map.1 hc
    have hkind := Comment.ofSpan_kind_eq_line_iff src n.start n.stop
    rw [Comment.ofSpan_start, Comment.ofSpan_stop]
    exact ⟨hkind, fun hline => Comment.ofSpan_line _ _ _ (hkind.1 hline),
      fun _ ht => Comment.ofSpan_block _ _ _ ht⟩

/-- The text `// a` and, on the next line, `f(/* b */)`, as it is read, with its comments
placed. -/
def callWithComments : Node :=
  .mk "program" true false none 0 15
    [.mk "comment" true false none 0 4 [],
     .mk "expression_statement" true false none 5 15
       [.mk "call_expression" true false none 5 15
         [.mk "identifier" true false (some "function") 5 6 [],
          .mk "arguments" true false (some "arguments") 6 15
            [.mk "(" false false none 6 7 [],
             .mk "comment" true false none 7 14 [],
             .mk ")" false false none 14 15 []]]]]

theorem commentsOf_callWithComments :
    let src := Source.ofString "// a\nf(/* b */)"
    callWithComments.LeafComments ∧ callWithComments.wellFormed src = true ∧
      commentsOf src callWithComments =
        (callWithComments.preorder.filter (·.kind == "comment")).map
          (fun n => Comment.ofSpan src n.start n.stop) ∧
      (commentsOf src callWithComments).Pairwise fun a b => a.start < b.start :=
  have hleaf : callWithComments.LeafComments := by decide +kernel
  have hwf : callWithComments.wellFormed (Source.ofString "// a\nf(/* b */)") = true := by
    decide +kernel
  ⟨hleaf, hwf, (commentsOf_documentOrder _ _).1 hleaf, (commentsOf_documentOrder _ _).2.1 hwf⟩

end PluginLens.Syntax
