import PluginLens.Proofs.DocTargets

/-!
# What a function gives back and what an object literal holds

The capabilities of a function are found by two walks. The first collects the function's own
`return` statements: it starts at the function's body, steps into named nodes that open no
scope, and keeps every `return` statement it meets without looking inside it. In closed form
(`returnsUnder_owned`) these are the `return` statements of the body's preorder reached through
such nodes only, with no `return` statement between them and the body; so they come in
preorder, which in a well-formed tree is the order of their starts.

The second walk reads each object literal given back. Every entry that is a property (a pair
with a key and a value, a method with a name, a spread, a shorthand name) makes exactly one
finding, a capability named by the key's static name or a skipped entry, and any other entry
makes none (`entryFinding_count`). The findings keep the order of the entries.

Main statements: `returnsOf_owned` for a function's `return` statements and what they give
back, and `objectFindings_properties` for one object literal.
-/

namespace PluginLens.Syntax

open PluginLens.Text

/-! ## The preorder below a node -/

mutual
/-- The preorder of a tree below ancestors `above ++ base` is its preorder below `above`, with
`base` added to every node's ancestors. -/
theorem occurrences_append (base : List Node) :
    ∀ (above : List Node) (n : Node),
      occurrences (above ++ base) n = (occurrences above n).map fun o => (o.1, o.2 ++ base)
  | above, .mk kind named missing field start stop children => by
    rw [occurrences, occurrences, List.map_cons, ← List.cons_append,
      occurrencesAmong_append base (.mk kind named missing field start stop children :: above)]

theorem occurrencesAmong_append (base : List Node) :
    ∀ (above : List Node) (ns : List Node),
      occurrencesAmong (above ++ base) ns =
        (occurrencesAmong above ns).map fun o => (o.1, o.2 ++ base)
  | _, [] => rfl
  | above, n :: ns => by
    rw [occurrencesAmong, occurrencesAmong, List.map_append, occurrences_append base above n,
      occurrencesAmong_append base above ns]
end

namespace Node

/-- Whether the search for a function's own `return` statements steps into a node: a named
node, no comment, that opens no scope. -/
def searchedForReturns (n : Node) : Bool :=
  n.named && n.kind != "comment" && !isScopeBoundary n.kind

end Node

/-- Whether the search, having stepped into a node and gone down through `path` (nearest first,
that node last) to `r`, keeps `r`: `r` is a `return` statement, the search steps into `r` and
every node of `path`, and none of `path` is itself a `return` statement. -/
def reachedReturn (r : Node) (path : List Node) : Bool :=
  r.kind == "return_statement" && (r :: path).all Node.searchedForReturns &&
    path.all (·.kind != "return_statement")

/-- Whether `r`, with ancestors `above` up to the body of a function (nearest first, the body
last), is a `return` statement of that function itself: every node below the body on the way
down to `r`, `r` included, is one the search steps into, and no node from the body down to `r`'s
parent is a `return` statement. The body itself may be anything. -/
def ownedReturn (r : Node) (above : List Node) : Bool :=
  r.kind == "return_statement" && ((r :: above).dropLast).all Node.searchedForReturns &&
    above.all (·.kind != "return_statement")

@[simp] theorem ownedReturn_nil (r : Node) :
    ownedReturn r [] = (r.kind == "return_statement") := by
  simp [ownedReturn]

theorem ownedReturn_append_singleton (r b : Node) (path : List Node) :
    ownedReturn r (path ++ [b]) =
      (reachedReturn r path && b.kind != "return_statement") := by
  simp only [ownedReturn, reachedReturn, ← List.cons_append, List.dropLast_concat,
    List.all_append, List.all_cons, List.all_nil, Bool.and_true, Bool.and_assoc]

theorem reachedReturn_append_singleton (r c : Node) (path : List Node) :
    reachedReturn r (path ++ [c]) =
      (reachedReturn r path && c.searchedForReturns && c.kind != "return_statement") := by
  simp only [reachedReturn, ← List.cons_append, List.all_append, List.all_cons, List.all_nil,
    Bool.and_true, Bool.and_assoc]
  cases c.searchedForReturns <;> simp

theorem occurrences_eq_cons (above : List Node) (n : Node) :
    occurrences above n = (n, above) :: occurrencesAmong (n :: above) n.children := by
  cases n
  rw [occurrences]
  rfl

theorem returnsUnder_eq (n : Node) :
    n.returnsUnder =
      if n.kind == "return_statement" then [n] else Node.returnsAmong n.children := by
  cases n
  rw [Node.returnsUnder]
  rfl

/-- The preorder below a node's children, seen from the node, is each child's own preorder
with the node added to the ancestors. -/
theorem occurrencesAmong_cons_above (n : Node) (cs : List Node) :
    occurrencesAmong [n] cs = (occurrencesAmong [] cs).map fun o => (o.1, o.2 ++ [n]) :=
  occurrencesAmong_append [n] [] cs

/-- What the search keeps among siblings is, sibling by sibling, what it keeps of each
sibling it steps into. -/
theorem returnsAmong_eq_filter {cs : List Node}
    (h : ∀ c ∈ cs, (if c.searchedForReturns then c.returnsUnder else []) =
      ((occurrences [] c).filter fun o => reachedReturn o.1 o.2).map (·.1)) :
    Node.returnsAmong cs =
      ((occurrencesAmong [] cs).filter fun o => reachedReturn o.1 o.2).map (·.1) := by
  induction cs with
  | nil => rfl
  | cons c cs ih =>
    rw [Node.returnsAmong, occurrencesAmong, List.filter_append, List.map_append,
      ← h c List.mem_cons_self, ih fun c' hc' => h c' (List.mem_cons_of_mem _ hc')]
    rfl

/-- What the search keeps of a node it may step into: nothing when it does not step in, the
node itself when it is a `return` statement, and otherwise what it keeps of the children. -/
theorem returnsUnder_eq_filter (c : Node) :
    (if c.searchedForReturns then c.returnsUnder else []) =
      ((occurrences [] c).filter fun o => reachedReturn o.1 o.2).map (·.1) := by
  induction c using Node.children_induction with
  | step c ih =>
    rw [occurrences_eq_cons, occurrencesAmong_cons_above, List.filter_cons, List.filter_map]
    simp only [Function.comp_def, reachedReturn_append_singleton]
    by_cases hs : c.searchedForReturns = true
    · by_cases hr : c.kind = "return_statement"
      · -- a `return` statement is kept, and nothing below it
        simp [hs, hr, returnsUnder_eq, reachedReturn]
      · -- any other node is not kept, and the search goes on below it
        have hne : (c.kind != "return_statement") = true := bne_iff_ne.2 hr
        have hskip : reachedReturn c [] = false := by simp [reachedReturn, hr]
        simp only [hs, if_true, returnsUnder_eq, hr, beq_iff_eq, if_false, hskip, hne,
          Bool.and_true, Bool.false_eq_true, List.map_map]
        rw [returnsAmong_eq_filter ih]
        rfl
    · simp [hs, reachedReturn]

/-- The `return` statements under a function's body are those of its preorder that belong to
the function itself. -/
theorem returnsUnder_owned (body : Node) :
    body.returnsUnder = ((occurrences [] body).filter fun o => ownedReturn o.1 o.2).map (·.1) := by
  rw [occurrences_eq_cons, occurrencesAmong_cons_above, List.filter_cons, List.filter_map,
    returnsUnder_eq]
  simp only [Function.comp_def, ownedReturn_append_singleton]
  by_cases hr : body.kind = "return_statement"
  · simp [hr]
  · have hne : (body.kind != "return_statement") = true := bne_iff_ne.2 hr
    rw [returnsAmong_eq_filter fun c _ => returnsUnder_eq_filter c]
    simp [hr, hne, List.map_map, Function.comp_def]

end PluginLens.Syntax

namespace PluginLens

open PluginLens.Text PluginLens.Syntax

variable {src : Source}

/-! ## A function's own `return` statements -/

theorem returnsUnder_start_lt {body : Node} (h : body.wellFormed src = true) :
    body.returnsUnder.Pairwise fun r r' => r.start < r'.start := by
  obtain ⟨hin, hord⟩ := returnsUnder_below h
  refine hord.imp_of_mem fun hr _ hbefore => ?_
  have hsound := Syntax.Node.WellFormed.sound (hin _ hr).1
  exact Nat.lt_of_lt_of_le hsound.1 hbefore

/-- Concatenating what each `return` statement contributes is concatenating what the object
literals they give back contribute. -/
theorem flatMap_returnFindings {α : Type} (g : Extraction → List α) (hg : g {} = [])
    (rs : List Node) :
    rs.flatMap (fun r => g (returnFindings src r)) =
      (rs.filterMap fun r => r.returnArgument?.bind Node.objectLiteral?).flatMap
        fun o => g (objectFindings src o) := by
  induction rs with
  | nil => rfl
  | cons r rs ih =>
    rw [List.flatMap_cons, List.filterMap_cons, ih]
    unfold returnFindings
    cases r.returnArgument?.bind Node.objectLiteral? with
    | none => rw [hg, List.nil_append]
    | some o => rfl

/-- A function's findings are those of the object literals its own `return` statements give
back, in order. -/
theorem extractFromFunction_objects (f : Node) :
    extractFromFunction src f =
      ⟨(f.returnsOf.filterMap fun r => r.returnArgument?.bind Node.objectLiteral?).flatMap
          fun o => (objectFindings src o).capabilities,
        (f.returnsOf.filterMap fun r => r.returnArgument?.bind Node.objectLiteral?).flatMap
          fun o => (objectFindings src o).skipped⟩ := by
  rw [extractFromFunction_eq, flatMap_returnFindings (·.capabilities) rfl,
    flatMap_returnFindings (·.skipped) rfl]

/-- The `return` statements of a function with a body are the `return` statements of the
body's preorder that belong to the function itself: reached from the body through named nodes,
no comment among them, that open no scope (no function, arrow, method or class), with no
`return` statement from the body down to them. They come in preorder, so in a well-formed body
in strictly increasing start; and the function's findings are those of every one of them that
gives back an object literal, seen through parentheses, in that order. -/
theorem returnsOf_owned (src : Source) {f body : Node} (hbody : f.child? "body" = some body) :
    f.returnsOf = ((occurrences [] body).filter fun o => ownedReturn o.1 o.2).map (·.1) ∧
    (body.wellFormed src = true → f.returnsOf.Pairwise fun r r' => r.start < r'.start) ∧
    extractFromFunction src f =
      ⟨(f.returnsOf.filterMap fun r => r.returnArgument?.bind Node.objectLiteral?).flatMap
          fun o => (objectFindings src o).capabilities,
        (f.returnsOf.filterMap fun r => r.returnArgument?.bind Node.objectLiteral?).flatMap
          fun o => (objectFindings src o).skipped⟩ := by
  have hreturns : f.returnsOf = body.returnsUnder := by
    rw [Node.returnsOf, hbody]
  refine ⟨?_, fun h => ?_, extractFromFunction_objects f⟩
  · rw [hreturns, returnsUnder_owned]
  · rw [hreturns]
    exact returnsUnder_start_lt h

/-- The body of `function f() \x7b class A \x7b m() \x7b return 1 \x7d \x7d return A \x7d`,
as the text is read. -/
def classMethodBody : Node :=
  .mk "statement_block" true false (some "body") 13 54
    [.mk "\x7b" false false none 13 14 [],
     .mk "class_declaration" true false none 15 43
       [.mk "class" false false none 15 20 [],
        .mk "identifier" true false (some "name") 21 22 [],
        .mk "class_body" true false (some "body") 23 43
          [.mk "\x7b" false false none 23 24 [],
           .mk "method_definition" true false (some "member") 25 41
             [.mk "property_identifier" true false (some "name") 25 26 [],
              .mk "formal_parameters" true false (some "parameters") 26 28
                [.mk "(" false false none 26 27 [], .mk ")" false false none 27 28 []],
              .mk "statement_block" true false (some "body") 29 41
                [.mk "\x7b" false false none 29 30 [],
                 .mk "return_statement" true false none 31 39
                   [.mk "return" false false none 31 37 [],
                    .mk "number" true false none 38 39 []],
                 .mk "\x7d" false false none 40 41 []]],
           .mk "\x7d" false false none 42 43 []]],
     .mk "return_statement" true false none 44 52
       [.mk "return" false false none 44 50 [],
        .mk "identifier" true false none 51 52 []],
     .mk "\x7d" false false none 53 54 []]

/-- The function declared by the same text. -/
def classMethodFunction : Node :=
  .mk "function_declaration" true false none 0 54
    [.mk "function" false false none 0 8 [],
     .mk "identifier" true false (some "name") 9 10 [],
     .mk "formal_parameters" true false (some "parameters") 10 12
       [.mk "(" false false none 10 11 [], .mk ")" false false none 11 12 []],
     classMethodBody]

theorem classMethodFunction_returnsOf :
    let src := Source.ofString "function f() \x7b class A \x7b m() \x7b return 1 \x7d \x7d return A \x7d"
    classMethodFunction.child? "body" = some classMethodBody ∧
      classMethodFunction.returnsOf =
        ((occurrences [] classMethodBody).filter fun o => ownedReturn o.1 o.2).map (·.1) ∧
      (classMethodBody.wellFormed src = true →
        classMethodFunction.returnsOf.Pairwise fun r r' => r.start < r'.start) ∧
      extractFromFunction src classMethodFunction =
        ⟨(classMethodFunction.returnsOf.filterMap
            fun r => r.returnArgument?.bind Node.objectLiteral?).flatMap
            fun o => (objectFindings src o).capabilities,
          (classMethodFunction.returnsOf.filterMap
            fun r => r.returnArgument?.bind Node.objectLiteral?).flatMap
            fun o => (objectFindings src o).skipped⟩ :=
  ⟨rfl, returnsOf_owned _ rfl⟩

/-! ## The entries of an object literal -/

/-- The entries of an object literal that make one finding each: a pair with a key and a
value, a method with a name, a spread, and a shorthand name. -/
def Syntax.Node.isProperty (p : Node) : Bool :=
  match p.kind with
  | "pair" => (p.child? "key").isSome && (p.child? "value").isSome
  | "method_definition" => (p.child? "name").isSome
  | "spread_element" | "shorthand_property_identifier" => true
  | _ => false

variable {p k v : Node}

theorem entryFinding_pair (hp : p.kind = "pair") (hk : p.child? "key" = some k)
    (hv : p.child? "value" = some v) :
    entryFinding src p = (keyName src k).elim { skipped := [⟨.computedKey, Span.ofNode p⟩] }
      fun name =>
        { capabilities := [Capability.over src name (ValueKind.ofNode v) (Span.ofNode v.unparen)] } := by
  unfold entryFinding
  rw [hp]
  simp only [hk, hv]
  cases keyName src k <;> rfl

theorem entryFinding_method (hp : p.kind = "method_definition") (hk : p.child? "name" = some k) :
    entryFinding src p = (keyName src k).elim { skipped := [⟨.computedKey, Span.ofNode p⟩] }
      fun name =>
        { capabilities := [Capability.over src name .function
            ⟨((p.child? "parameters").map (·.start)).getD p.start,
              ((p.child? "body").map (·.stop)).getD p.stop⟩] } := by
  unfold entryFinding
  rw [hp]
  simp only [hk]
  cases keyName src k <;> rfl

theorem entryFinding_shorthand (hp : p.kind = "shorthand_property_identifier") :
    entryFinding src p =
      { capabilities := [Capability.over src (src.slice p.start p.stop) .other (Span.ofNode p)] } := by
  unfold entryFinding
  rw [hp]
  rfl

theorem entryFinding_spread (hp : p.kind = "spread_element") :
    entryFinding src p = { skipped := [⟨.spread, Span.ofNode p⟩] } := by
  unfold entryFinding
  rw [hp]
  rfl

/-- An entry that is no property makes no finding. -/
theorem entryFinding_eq_empty (hp : p.isProperty = false) : entryFinding src p = {} := by
  unfold Syntax.Node.isProperty at hp
  unfold entryFinding
  split
  · rename_i hk
    rw [hk] at hp
    cases hkey : p.child? "key" <;> cases hval : p.child? "value" <;> simp_all
  · rename_i hk
    rw [hk] at hp
    cases hname : p.child? "name" <;> simp_all
  · rename_i hk
    rw [hk] at hp
    cases hp
  · rename_i hk
    rw [hk] at hp
    cases hp
  · rfl

/-- A property makes exactly one finding, any other entry none. -/
theorem entryFinding_count (p : Node) :
    (entryFinding src p).capabilities.length + (entryFinding src p).skipped.length =
      if p.isProperty then 1 else 0 := by
  cases hprop : p.isProperty with
  | false => rw [entryFinding_eq_empty hprop]; rfl
  | true =>
    unfold Syntax.Node.isProperty at hprop
    split at hprop
    · rename_i hpair
      obtain ⟨hk, hv⟩ := Bool.and_eq_true_iff.1 hprop
      obtain ⟨k, hkey⟩ := Option.isSome_iff_exists.1 hk
      obtain ⟨v, hval⟩ := Option.isSome_iff_exists.1 hv
      rw [entryFinding_pair hpair hkey hval]
      cases keyName src k <;> rfl
    · rename_i hmethod
      obtain ⟨k, hname⟩ := Option.isSome_iff_exists.1 hprop
      rw [entryFinding_method hmethod hname]
      cases keyName src k <;> rfl
    · rename_i hspread
      rw [entryFinding_spread hspread]
      rfl
    · rename_i hshorthand
      rw [entryFinding_shorthand hshorthand]
      rfl
    · cases hprop

theorem flatMap_entryFinding_count (ps : List Node) :
    (ps.flatMap fun p => (entryFinding src p).capabilities).length +
      (ps.flatMap fun p => (entryFinding src p).skipped).length = ps.countP Node.isProperty := by
  induction ps with
  | nil => rfl
  | cons p ps ih =>
    have hp : (entryFinding src p).capabilities.length + (entryFinding src p).skipped.length =
        if p.isProperty then 1 else 0 := entryFinding_count p
    rw [List.flatMap_cons, List.flatMap_cons, List.length_append, List.length_append,
      List.countP_cons]
    cases hprop : p.isProperty <;> simp only [hprop] at hp ⊢ <;> omega

/-- The kinds of key that have a static name. -/
def staticKeyKinds : List String :=
  ["property_identifier", "identifier", "private_property_identifier", "string", "number"]

theorem keyName_eq_none_iff (k : Node) : keyName src k = none ↔ k.kind ∉ staticKeyKinds := by
  unfold keyName staticKeyKinds
  split <;> simp_all

namespace ValueKind

theorem ofNode_eq_arrow_iff (v : Node) :
    ofNode v = .arrow ↔ v.unparen.kind = "arrow_function" := by
  unfold ofNode
  by_cases ha : v.unparen.kind = "arrow_function"
  · simp [ha]
  · by_cases hl : v.unparen.kind ∈ literalKinds <;> by_cases hf : v.unparen.isFunction <;>
      simp [ha, hl, hf]

theorem ofNode_eq_literal_iff (v : Node) :
    ofNode v = .literal ↔ v.unparen.kind ∈ literalKinds := by
  unfold ofNode
  by_cases ha : v.unparen.kind = "arrow_function"
  · simp [ha, literalKinds]
  · by_cases hl : v.unparen.kind ∈ literalKinds <;> by_cases hf : v.unparen.isFunction <;>
      simp [ha, hl, hf]

/-- A value is a function exactly when, seen through parentheses, it is a named function node:
arrows and literals are not. -/
theorem ofNode_eq_function_iff (v : Node) :
    ofNode v = .function ↔ v.unparen.isFunction = true := by
  unfold ofNode
  by_cases ha : v.unparen.kind = "arrow_function"
  · have hf : v.unparen.isFunction = false := by
      simp [Node.isFunction, ha, functionDeclarationKinds, functionExpressionKinds]
    simp [ha, hf]
  by_cases hl : v.unparen.kind ∈ literalKinds
  · simp [ha, hl, Docs.isFunction_eq_false (List.mem_cons_of_mem _ hl)]
  · by_cases hf : v.unparen.isFunction <;> simp [ha, hl, hf]

end ValueKind

/-- An object literal's findings. Its entries, the named children other than comments, are read
in order and each once: every property makes exactly one finding and any other entry none, so
the findings are as many as the properties, and as many as the entries when all of them are
properties, as in an object written without errors. A pair or a method whose key has a static
name gives a capability under that name; one whose key is computed is skipped over its own
span, as is a spread; a shorthand name gives a capability of kind other named by its text. A
value is an arrow, a literal or a function by what it is seen through parentheses, and every
method is a function. -/
theorem objectFindings_properties (src : Source) (o : Node) :
    objectFindings src o =
      ⟨(objectEntries o).flatMap fun p => (entryFinding src p).capabilities,
        (objectEntries o).flatMap fun p => (entryFinding src p).skipped⟩ ∧
    (∀ p : Node, (entryFinding src p).capabilities.length + (entryFinding src p).skipped.length =
      if p.isProperty then 1 else 0) ∧
    (objectFindings src o).capabilities.length + (objectFindings src o).skipped.length =
      (objectEntries o).countP Node.isProperty ∧
    ((∀ p ∈ objectEntries o, p.isProperty = true) →
      (objectFindings src o).capabilities.length + (objectFindings src o).skipped.length =
        (objectEntries o).length) ∧
    (∀ p k v : Node, p.kind = "pair" → p.child? "key" = some k → p.child? "value" = some v →
      entryFinding src p = (keyName src k).elim { skipped := [⟨.computedKey, Span.ofNode p⟩] }
        fun name =>
          { capabilities := [Capability.over src name (ValueKind.ofNode v) (Span.ofNode v.unparen)] }) ∧
    (∀ p k : Node, p.kind = "method_definition" → p.child? "name" = some k →
      entryFinding src p = (keyName src k).elim { skipped := [⟨.computedKey, Span.ofNode p⟩] }
        fun name =>
          { capabilities := [Capability.over src name .function
              ⟨((p.child? "parameters").map (·.start)).getD p.start,
                ((p.child? "body").map (·.stop)).getD p.stop⟩] }) ∧
    (∀ p : Node, p.kind = "shorthand_property_identifier" → entryFinding src p =
      { capabilities := [Capability.over src (src.slice p.start p.stop) .other (Span.ofNode p)] }) ∧
    (∀ p : Node, p.kind = "spread_element" →
      entryFinding src p = { skipped := [⟨.spread, Span.ofNode p⟩] }) ∧
    (∀ k : Node, keyName src k = none ↔ k.kind ∉ staticKeyKinds) ∧
    (∀ v : Node, ValueKind.ofNode v = .arrow ↔ v.unparen.kind = "arrow_function") ∧
    (∀ v : Node, ValueKind.ofNode v = .literal ↔ v.unparen.kind ∈ literalKinds) ∧
    (∀ v : Node, ValueKind.ofNode v = .function ↔ v.unparen.isFunction = true) := by
  have hcount : (objectFindings src o).capabilities.length +
      (objectFindings src o).skipped.length = (objectEntries o).countP Node.isProperty := by
    rw [objectFindings_eq]
    exact flatMap_entryFinding_count _
  refine ⟨objectFindings_eq src o, entryFinding_count, hcount, fun hall => ?_,
    fun _ _ _ => entryFinding_pair, fun _ _ => entryFinding_method,
    fun _ => entryFinding_shorthand, fun _ => entryFinding_spread, keyName_eq_none_iff,
    ValueKind.ofNode_eq_arrow_iff, ValueKind.ofNode_eq_literal_iff,
    ValueKind.ofNode_eq_function_iff⟩
  rw [hcount, List.countP_eq_length.2 hall]

end PluginLens
