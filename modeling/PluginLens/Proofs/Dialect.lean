import PluginLens.Proofs.Inspection
import Mathlib.Tactic.Set
import Mathlib.Tactic.SplitIfs

/-!
# What separates the two dialects

`firstViolation` walks a tree once, in preorder, and carries two flags down: whether the node
stands inside a function, and whether it is a statement of the program itself. Both flags are
facts about the node's ancestors, so the walk is the search of one list, the preorder
`occurrences` of the tree with each node's ancestors, for the first node that breaks a rule
where it stands (`firstViolation_eq_findSome`). A dialect accepts a tree exactly when no node
breaks its rules (`firstViolation_eq_none_iff`). The check itself runs the search with an
explicit stack (`checkWalk`); from the root it answers as the recursive search does, so it
reports the first violating node of the preorder, at the node's start or, for an assignment to
what cannot be assigned, at the start of its target (`checkWalk_firstViolation`).

The rules of the two dialects differ on four kinds of node only. A node that a script allows
is refused by a module only when it is a `with` statement, and a node that a module allows is
refused by a script only when it is a construct of modules: an `import` or `export`
declaration, `import.meta`, or `await` outside every function. From this, node by node, a
script tree is a module tree unless it holds `with`, a module tree without constructs of
modules is a script tree, and `SyntaxTree.accept` settles on the module dialect only for texts
that need it.
-/

namespace PluginLens.Syntax

open PluginLens.Text

/-- Whether a node with ancestors `above` (nearest first) stands inside a function: some
ancestor opens a function scope. -/
def insideFunction (above : List Node) : Bool :=
  above.any fun a => isScopeBoundary a.kind && !a.kind.startsWith "class"

/-- Whether a node with ancestors `above` is a statement of the program: its parent is the
program. -/
def isTopLevel : List Node → Bool
  | a :: _ => a.kind == "program"
  | [] => false

@[simp] theorem insideFunction_nil : insideFunction [] = false := rfl

@[simp] theorem isTopLevel_nil : isTopLevel [] = false := rfl

@[simp] theorem insideFunction_cons (n : Node) (above : List Node) :
    insideFunction (n :: above) =
      (insideFunction above || (isScopeBoundary n.kind && !n.kind.startsWith "class")) := by
  simp [insideFunction, Bool.or_comm]

@[simp] theorem isTopLevel_cons (n : Node) (above : List Node) :
    isTopLevel (n :: above) = (n.kind == "program") := rfl

/-- The rule a node with ancestors `above` breaks in `d`, if any: a recovered error, an assumed
token, or a rule of the dialect. -/
def violationAt (src : Source) (d : Dialect) (n : Node) (above : List Node) :
    Option SyntaxError :=
  if n.isError then some { message := unexpectedMessage src n, offset := n.start }
  else if n.missing then some { message := "Expected `" ++ n.kind ++ "`", offset := n.start }
  else nodeViolation src d n (insideFunction above) (isTopLevel above)

/-- Whether a node with ancestors `above` is a construct only modules allow: an `import` or
`export` declaration, `import.meta`, or `await` outside every function. -/
def moduleOnly (src : Source) (n : Node) (above : List Node) : Bool :=
  n.kind == "import_statement" || n.kind == "export_statement" ||
    ((n.kind == "meta_property" || n.kind == "member_expression") && isImportMeta src n) ||
    (n.kind == "await_expression" && !insideFunction above)

mutual
/-- Every node under `n` in preorder, each with its ancestors, nearest first, when `n` has
ancestors `above`. -/
def occurrences (above : List Node) : Node → List (Node × List Node)
  | n@(.mk _ _ _ _ _ _ children) => (n, above) :: occurrencesAmong (n :: above) children

/-- Every node under sibling nodes with ancestors `above`, in preorder. -/
def occurrencesAmong (above : List Node) : List Node → List (Node × List Node)
  | [] => []
  | n :: ns => occurrences above n ++ occurrencesAmong above ns
end

/-! ## The walk is a search of the preorder -/

section Walk

mutual
/-- The walk finds the first node of the preorder that breaks a rule where it stands. -/
theorem firstViolation_eq_findSome (src : Source) (d : Dialect) (above : List Node) :
    ∀ n : Node, firstViolation src d n (insideFunction above) (isTopLevel above) =
      (occurrences above n).findSome? fun o => violationAt src d o.1 o.2
  | .mk kind named missing field start stop children => by
    rw [firstViolation, occurrences, List.findSome?_cons, violationAt]
    set n := Node.mk kind named missing field start stop children
    by_cases he : n.isError = true
    · simp [he]
    by_cases hm : n.missing = true
    · simp [he, hm]
    cases hv : nodeViolation src d n (insideFunction above) (isTopLevel above) with
    | some e => simp [he, hm]
    | none =>
      simp only [he, hm, Bool.false_eq_true, if_false]
      rw [← insideFunction_cons]
      -- the flags the children inherit are those of their own ancestors
      show firstViolationAmong src d children (insideFunction (n :: above))
        (isTopLevel (n :: above)) = _
      exact firstViolationAmong_eq_findSome src d (n :: above) children

theorem firstViolationAmong_eq_findSome (src : Source) (d : Dialect) (above : List Node) :
    ∀ ns : List Node, firstViolationAmong src d ns (insideFunction above) (isTopLevel above) =
      (occurrencesAmong above ns).findSome? fun o => violationAt src d o.1 o.2
  | [] => by simp [firstViolationAmong, occurrencesAmong]
  | n :: ns => by
    rw [firstViolationAmong, occurrencesAmong, List.findSome?_append,
      firstViolation_eq_findSome src d above n, firstViolationAmong_eq_findSome src d above ns]
    cases (occurrences above n).findSome? fun o => violationAt src d o.1 o.2 <;> rfl
end

variable (src : Source) (d : Dialect)

theorem firstViolation_root (root : Node) :
    firstViolation src d root false false =
      (occurrences [] root).findSome? fun o => violationAt src d o.1 o.2 :=
  firstViolation_eq_findSome src d [] root

theorem firstViolation_eq_none_iff (root : Node) :
    firstViolation src d root false false = none ↔
      ∀ o ∈ occurrences [] root, violationAt src d o.1 o.2 = none := by
  rw [firstViolation_root, List.findSome?_eq_none_iff]

theorem check_isOk_iff (p : ParsedText) :
    (SyntaxTree.check src p d).isOk = true ↔
      ∀ o ∈ occurrences [] p.root, violationAt src d o.1 o.2 = none := by
  rw [← firstViolation_eq_none_iff]
  rw [SyntaxTree.check_eq]
  cases firstViolation src d p.root false false <;> simp [Except.isOk, Except.toBool]

/-- A dialect refuses a tree for the first node, in preorder, that breaks a rule where it
stands. -/
theorem check_eq_error_iff (p : ParsedText) {e : SyntaxError} :
    SyntaxTree.check src p d = .error e ↔
      (occurrences [] p.root).findSome? (fun o => violationAt src d o.1 o.2) = some e := by
  rw [← firstViolation_root]
  rw [SyntaxTree.check_eq]
  cases firstViolation src d p.root false false <;> simp

end Walk

/-! ## The explicit stack, and where a violation is reported -/

section Stack

variable (src : Source) (d : Dialect) {n : Node} {inF top : Bool}

theorem ne_of_head?_ne {s t : String} (h : s.toList.head? ≠ t.toList.head?) : s ≠ t :=
  fun hst => h (congrArg (·.toList.head?) hst)

theorem unexpectedMessage_head? (n : Node) :
    (unexpectedMessage src n).toList.head? = some 'U' := by
  unfold unexpectedMessage
  dsimp only
  split_ifs <;> simp [String.toList_append]

theorem unexpectedMessage_ne (n : Node) : unexpectedMessage src n ≠ "Assigning to rvalue" := by
  apply ne_of_head?_ne
  rw [unexpectedMessage_head?]
  simp

theorem expectedMessage_ne (k : String) : "Expected `" ++ k ++ "`" ≠ "Assigning to rvalue" := by
  apply ne_of_head?_ne
  simp [String.toList_append]

/-- A rule of a dialect is reported at the start of the node that breaks it, except an
assignment to what cannot be assigned, which is reported at the start of its target. -/
theorem nodeViolation_offset {e : SyntaxError} (h : nodeViolation src d n inF top = some e) :
    (e.message = "Assigning to rvalue" ∧
        ∃ left, n.child? "left" = some left ∧ e.offset = left.start) ∨
      (e.message ≠ "Assigning to rvalue" ∧ e.offset = n.start) := by
  unfold nodeViolation at h
  repeat' split at h
  all_goals cases h
  all_goals simp_all

/-- Where a node's violation is reported: at its start, except an assignment to what cannot be
assigned, reported at the start of its target. -/
theorem violationAt_offset {above : List Node} {e : SyntaxError}
    (h : violationAt src d n above = some e) :
    (e.message = "Assigning to rvalue" →
        ∃ left, n.child? "left" = some left ∧ e.offset = left.start) ∧
      (e.message ≠ "Assigning to rvalue" → e.offset = n.start) := by
  unfold violationAt at h
  split at h
  · cases h
    exact ⟨fun hm => absurd hm (unexpectedMessage_ne src n), fun _ => rfl⟩
  split at h
  · cases h
    exact ⟨fun hm => absurd hm (expectedMessage_ne n.kind), fun _ => rfl⟩
  rcases nodeViolation_offset src d h with ⟨hm, hleft⟩ | ⟨hm, hstart⟩
  · exact ⟨fun _ => hleft, fun hne => absurd hm hne⟩
  · exact ⟨fun heq => absurd heq hm, fun _ => hstart⟩

/-- The walk of a dialect's check pops nodes from an explicit stack and pushes each node's
children so that the first is popped next, carrying down whether a node stands inside a
function and whether it is a statement of the program. From the root it finds what the
recursive search finds: nothing when no node, anonymous ones included, breaks a rule where it
stands, where "inside a function" means below some scope that is no class and "statement of
the program" means a child of the program; otherwise the violation of the first such node in
preorder, reported at the node's start or, for an assignment to what cannot be assigned, at
the start of its target. -/
theorem checkWalk_firstViolation (root : Node) :
    checkWalk src d [(root, false, false)] = firstViolation src d root false false ∧
    (checkWalk src d [(root, false, false)] = none ↔
      ∀ o ∈ occurrences [] root, violationAt src d o.1 o.2 = none) ∧
    ∀ e, checkWalk src d [(root, false, false)] = some e ↔
      ∃ pre n above post, occurrences [] root = pre ++ (n, above) :: post ∧
        (∀ o ∈ pre, violationAt src d o.1 o.2 = none) ∧ violationAt src d n above = some e ∧
        (e.message = "Assigning to rvalue" →
          ∃ left, n.child? "left" = some left ∧ e.offset = left.start) ∧
        (e.message ≠ "Assigning to rvalue" → e.offset = n.start) := by
  have hsearch : checkWalk src d [(root, false, false)] =
      (occurrences [] root).findSome? fun o => violationAt src d o.1 o.2 := by
    rw [checkWalk_root, firstViolation_root]
  refine ⟨checkWalk_root src d root, ?_, fun e => ?_⟩
  · rw [hsearch, List.findSome?_eq_none_iff]
  · rw [hsearch, List.findSome?_eq_some_iff]
    constructor
    · rintro ⟨pre, ⟨n, above⟩, post, hsplit, hv, hpre⟩
      exact ⟨pre, n, above, post, hsplit, hpre, hv, violationAt_offset src d hv⟩
    · rintro ⟨pre, n, above, post, hsplit, hpre, hv, -⟩
      exact ⟨pre, (n, above), post, hsplit, hv, hpre⟩

end Stack

/-! ## Where the dialects differ, node by node -/

section Rules

variable (src : Source) {n : Node} {inF top : Bool}

theorem nodeViolation_script_declaration
    (hk : n.kind = "import_statement" ∨ n.kind = "export_statement") :
    nodeViolation src .script n inF top =
      some { message := "`import` and `export` may only appear with sourceType: module",
             offset := n.start } := by
  rcases hk with hk | hk <;> simp [nodeViolation, hk, Dialect.allowsModuleDeclarations]

theorem nodeViolation_script_importMeta
    (hk : n.kind = "meta_property" ∨ n.kind = "member_expression")
    (hm : isImportMeta src n = true) :
    nodeViolation src .script n inF top =
      some { message := "Cannot use `import.meta` outside a module", offset := n.start } := by
  rcases hk with hk | hk <;> simp [nodeViolation, hk, hm, Dialect.allowsModuleDeclarations]

theorem nodeViolation_script_await (hk : n.kind = "await_expression") (hf : inF = false) :
    nodeViolation src .script n inF top =
      some { message := "Cannot use keyword `await` outside an async function",
             offset := n.start } := by
  simp [nodeViolation, hk, hf, Dialect.allowsTopLevelAwait]

theorem nodeViolation_module_with (hk : n.kind = "with_statement") :
    nodeViolation src .module n inF top =
      some { message := "`with` in strict mode", offset := n.start } := by
  simp [nodeViolation, hk, Dialect.isStrict]

theorem nodeViolation_dialect_eq (d d' : Dialect)
    (hi : n.kind ≠ "import_statement") (he : n.kind ≠ "export_statement")
    (hm : ¬((n.kind = "meta_property" ∨ n.kind = "member_expression") ∧ isImportMeta src n = true))
    (hw : n.kind ≠ "with_statement") (ha : ¬(n.kind = "await_expression" ∧ inF = false)) :
    nodeViolation src d n inF top = nodeViolation src d' n inF top := by
  unfold nodeViolation
  split
  · contradiction
  · contradiction
  · simp [hm, hw, ha]

variable {above : List Node}

theorem moduleOnly_eq_false_iff : moduleOnly src n above = false ↔
    n.kind ≠ "import_statement" ∧ n.kind ≠ "export_statement" ∧
    ¬((n.kind = "meta_property" ∨ n.kind = "member_expression") ∧ isImportMeta src n = true) ∧
    ¬(n.kind = "await_expression" ∧ insideFunction above = false) := by
  simp [moduleOnly, and_assoc]

/-- A node passes where it stands when it is no recovered error, no assumed token, and breaks
no rule of the dialect. -/
theorem violationAt_eq_none_iff {d : Dialect} : violationAt src d n above = none ↔
    n.isError = false ∧ n.missing = false ∧
      nodeViolation src d n (insideFunction above) (isTopLevel above) = none := by
  unfold violationAt
  cases n.isError <;> cases n.missing <;> simp

/-- Where a script accepts a node, a module accepts it unless it is a `with` statement. -/
theorem violationAt_module_of_script (h : violationAt src .script n above = none) :
    violationAt src .module n above = none ↔ n.kind ≠ "with_statement" := by
  obtain ⟨hr, hmi, h⟩ := (violationAt_eq_none_iff src).1 h
  rw [violationAt_eq_none_iff]
  simp only [hr, hmi, true_and]
  by_cases hw : n.kind = "with_statement"
  · simp [nodeViolation_module_with src hw, hw]
  have hi : n.kind ≠ "import_statement" := fun hk => by
    simp [nodeViolation_script_declaration src (Or.inl hk)] at h
  have he : n.kind ≠ "export_statement" := fun hk => by
    simp [nodeViolation_script_declaration src (Or.inr hk)] at h
  have hm : ¬((n.kind = "meta_property" ∨ n.kind = "member_expression") ∧
      isImportMeta src n = true) := fun ⟨hk, hm⟩ => by
    simp [nodeViolation_script_importMeta src hk hm] at h
  have ha : ¬(n.kind = "await_expression" ∧ insideFunction above = false) :=
    fun ⟨hk, hf⟩ => by simp [nodeViolation_script_await src hk hf] at h
  rw [nodeViolation_dialect_eq src .module .script hi he hm hw ha, h]
  simp [hw]

theorem violationAt_script_of_module (h : violationAt src .module n above = none)
    (hmo : moduleOnly src n above = false) : violationAt src .script n above = none := by
  obtain ⟨hr, hmi, h⟩ := (violationAt_eq_none_iff src).1 h
  have hw : n.kind ≠ "with_statement" := fun hk => by
    simp [nodeViolation_module_with src hk] at h
  obtain ⟨hi, he, hm, ha⟩ := (moduleOnly_eq_false_iff src).1 hmo
  rw [violationAt_eq_none_iff, nodeViolation_dialect_eq src .script .module hi he hm hw ha]
  exact ⟨hr, hmi, h⟩

theorem violationAt_module_with (hk : n.kind = "with_statement") :
    violationAt src .module n above ≠ none := by
  rw [Ne, violationAt_eq_none_iff]
  rintro ⟨-, -, h⟩
  simp [nodeViolation_module_with src hk] at h

end Rules

/-! ## Whole trees -/

section Trees

variable (src : Source) (p : ParsedText)

theorem check_module_of_script (h : (SyntaxTree.check src p .script).isOk = true) :
    (SyntaxTree.check src p .module).isOk = true ↔
      ∀ o ∈ occurrences [] p.root, o.1.kind ≠ "with_statement" := by
  rw [check_isOk_iff] at h ⊢
  constructor
  · intro hm o ho
    exact (violationAt_module_of_script src (h o ho)).1 (hm o ho)
  · intro hw o ho
    exact (violationAt_module_of_script src (h o ho)).2 (hw o ho)

theorem check_script_of_module (h : (SyntaxTree.check src p .module).isOk = true)
    (hmo : ∀ o ∈ occurrences [] p.root, moduleOnly src o.1 o.2 = false) :
    (SyntaxTree.check src p .script).isOk = true := by
  rw [check_isOk_iff] at h ⊢
  intro o ho
  exact violationAt_script_of_module src (h o ho) (hmo o ho)

theorem check_module_no_with (h : (SyntaxTree.check src p .module).isOk = true) :
    ∀ o ∈ occurrences [] p.root, o.1.kind ≠ "with_statement" := by
  rw [check_isOk_iff] at h
  intro o ho hk
  exact violationAt_module_with src hk (h o ho)

/-- Every `return` statement of an accepted tree stands inside a function: some ancestor opens
a function scope. A class opens none, but it does not hide the function around it either. -/
theorem check_return_insideFunction {d : Dialect} (h : (SyntaxTree.check src p d).isOk = true) :
    ∀ o ∈ occurrences [] p.root, o.1.kind = "return_statement" → insideFunction o.2 = true := by
  rw [check_isOk_iff] at h
  intro o ho hk
  obtain ⟨-, -, hv⟩ := (violationAt_eq_none_iff src).1 (h o ho)
  cases hf : insideFunction o.2 with
  | true => rfl
  | false => simp [nodeViolation, hk, hf] at hv

/-- The tree read from `function f(){ class A { static { return 1 } } }`. -/
def staticBlockTree : Node :=
  .mk "program" true false none 0 47
    [.mk "function_declaration" true false none 0 47
      [.mk "function" false false none 0 8 [],
       .mk "identifier" true false (some "name") 9 10 [],
       .mk "formal_parameters" true false (some "parameters") 10 12
         [.mk "(" false false none 10 11 [], .mk ")" false false none 11 12 []],
       .mk "statement_block" true false (some "body") 12 47
         [.mk "\x7b" false false none 12 13 [],
          .mk "class_declaration" true false none 14 45
            [.mk "class" false false none 14 19 [],
             .mk "identifier" true false (some "name") 20 21 [],
             .mk "class_body" true false (some "body") 22 45
               [.mk "\x7b" false false none 22 23 [],
                .mk "class_static_block" true false (some "member") 24 43
                  [.mk "static" false false none 24 30 [],
                   .mk "statement_block" true false (some "body") 31 43
                     [.mk "\x7b" false false none 31 32 [],
                      .mk "return_statement" true false none 33 41
                        [.mk "return" false false none 33 39 [],
                         .mk "number" true false none 40 41 []],
                      .mk "\x7d" false false none 42 43 []]],
                .mk "\x7d" false false none 44 45 []]],
          .mk "\x7d" false false none 46 47 []]]]

/-- A `return` in a class static block, inside a function: both dialects accept the tree, the
function around the class counting as the `return`'s function, yet no function's own `return`
statements include it, since they stop at the class. -/
theorem staticBlockReturn_unowned :
    let src := Source.ofString "function f()\x7b class A \x7b static \x7b return 1 \x7d \x7d \x7d"
    firstViolation src .script staticBlockTree false false = none ∧
      firstViolation src .module staticBlockTree false false = none ∧
      (occurrences [] staticBlockTree).any (·.1.kind == "return_statement") = true ∧
      ∀ o ∈ occurrences [] staticBlockTree,
        (isScopeBoundary o.1.kind && !o.1.kind.startsWith "class") = true →
          o.1.returnsOf.isEmpty = true := by
  decide +kernel

/-- The tree read from `() => function(){ return 1 }`. -/
def arrowBodyTree : Node :=
  .mk "program" true false none 0 28
    [.mk "expression_statement" true false none 0 28
      [.mk "arrow_function" true false none 0 28
        [.mk "formal_parameters" true false (some "parameters") 0 2
           [.mk "(" false false none 0 1 [], .mk ")" false false none 1 2 []],
         .mk "=>" false false none 3 5 [],
         .mk "function_expression" true false (some "body") 6 28
           [.mk "function" false false none 6 14 [],
            .mk "formal_parameters" true false (some "parameters") 14 16
              [.mk "(" false false none 14 15 [], .mk ")" false false none 15 16 []],
            .mk "statement_block" true false (some "body") 16 28
              [.mk "\x7b" false false none 16 17 [],
               .mk "return_statement" true false none 18 26
                 [.mk "return" false false none 18 24 [],
                  .mk "number" true false none 25 26 []],
               .mk "\x7d" false false none 27 28 []]]]]]

/-- An arrow function whose body is itself a function: the inner function's `return` is among
the inner function's own `return` statements and among the arrow's too, since the walk for the
arrow starts at its body without asking whether the body opens a scope. -/
theorem arrowBodyReturn_twice :
    let src := Source.ofString "() => function()\x7b return 1 \x7d"
    firstViolation src .script arrowBodyTree false false = none ∧
      ((occurrences [] arrowBodyTree).filter fun o =>
        (isScopeBoundary o.1.kind && !o.1.kind.startsWith "class") &&
          o.1.returnsOf.any (·.kind == "return_statement")).map (·.1.kind) =
        ["arrow_function", "function_expression"] := by
  decide +kernel

theorem check_eq_ok {d : Dialect} {t : SyntaxTree} (h : SyntaxTree.check src p d = .ok t) :
    t.dialect = d ∧ t.root = p.root := by
  rw [SyntaxTree.check_eq] at h
  split at h
  · cases h
  · cases h
    exact ⟨rfl, rfl⟩

end Trees

/-! ## Accepting a read text -/

section Accept

variable (src : Source) (p : ParsedText)

theorem accept_of_script {t : SyntaxTree} (h : SyntaxTree.check src p .script = .ok t) :
    SyntaxTree.accept src p = .ok t := by
  rw [SyntaxTree.accept, h]

theorem accept_isOk_iff : (SyntaxTree.accept src p).isOk = true ↔
    (SyntaxTree.check src p .script).isOk = true ∨
      (SyntaxTree.check src p .module).isOk = true := by
  unfold SyntaxTree.accept
  cases SyntaxTree.check src p .script <;> cases SyntaxTree.check src p .module <;>
    simp [Except.isOk, Except.toBool]

theorem accept_eq_error_iff {e : SyntaxError} : SyntaxTree.accept src p = .error e ↔
    (SyntaxTree.check src p .script).isOk = false ∧ SyntaxTree.check src p .module = .error e := by
  unfold SyntaxTree.accept
  cases SyntaxTree.check src p .script <;> simp [Except.isOk, Except.toBool]

/-- A text accepted as a module is one the script dialect refuses and the module dialect
accepts. -/
theorem accept_module {t : SyntaxTree} (h : SyntaxTree.accept src p = .ok t)
    (hd : t.dialect = .module) :
    (SyntaxTree.check src p .script).isOk = false ∧ SyntaxTree.check src p .module = .ok t := by
  unfold SyntaxTree.accept at h
  cases hs : SyntaxTree.check src p .script with
  | ok t' =>
    rw [hs] at h
    cases h
    have := (check_eq_ok _ _ hs).1
    rw [hd] at this
    cases this
  | error e => simp_all [Except.isOk, Except.toBool]

theorem accept_module_moduleOnly {t : SyntaxTree} (h : SyntaxTree.accept src p = .ok t)
    (hd : t.dialect = .module) : ∃ o ∈ occurrences [] t.root, moduleOnly src o.1 o.2 = true := by
  obtain ⟨hs, hm⟩ := accept_module src p h hd
  have hok : (SyntaxTree.check src p .module).isOk = true := by rw [hm]; rfl
  refine Classical.byContradiction fun hno => ?_
  have hmo : ∀ o ∈ occurrences [] t.root, moduleOnly src o.1 o.2 = false :=
    fun o ho => Bool.eq_false_iff.2 fun hmo => hno ⟨o, ho, hmo⟩
  rw [(check_eq_ok _ _ hm).2] at hmo
  rw [check_script_of_module _ _ hok hmo] at hs
  cases hs

theorem accept_module_no_with {t : SyntaxTree} (h : SyntaxTree.accept src p = .ok t)
    (hd : t.dialect = .module) : ∀ o ∈ occurrences [] t.root, o.1.kind ≠ "with_statement" := by
  obtain ⟨-, hm⟩ := accept_module src p h hd
  have hok : (SyntaxTree.check src p .module).isOk = true := by rw [hm]; rfl
  rw [(check_eq_ok _ _ hm).2]
  exact check_module_no_with _ _ hok

end Accept

end PluginLens.Syntax

namespace PluginLens

open PluginLens.Syntax PluginLens.Text

theorem lineCol_min_byteSize (src : Source) (b : Nat) :
    lineCol src (min b src.byteSize) = lineCol src b := by
  simp only [lineCol, Source.charsBefore, Nat.min_assoc, Nat.min_self]

/-- A refusal is reported at its offset, clamped to the text, with the line and column of that
offset. -/
theorem atOffset_eq_parse (m : String) (o : Nat) (src : Source) :
    InspectError.atOffset m o src =
      .parse m (min o src.byteSize) (lineCol src o).1 (lineCol src o).2 := by
  simp [InspectError.atOffset, lineCol_min_byteSize]

/-- How a text is accepted, whatever tree the reader gives for it: each dialect refuses the
tree for its first node, in preorder, that breaks one of its rules where the node stands; a
script tree is a module tree exactly when it holds no `with`; a module tree without constructs
of modules is a script tree; so a text is accepted as a module only when it uses such a
construct, and never with `with` in it. A text is accepted when one of the dialects accepts it,
as a script whenever the script dialect does, and when both refuse it the module's refusal is
the answer. Reading a text accepts the tree its reader gives, and a refusal is reported with
its line and column. -/
theorem build_dialect_choice (text : String) (p : ParsedText) :
    let src := Source.ofString text
    (∀ d e, SyntaxTree.check src p d = .error e ↔
      (occurrences [] p.root).findSome? (fun o => violationAt src d o.1 o.2) = some e) ∧
    (∀ d, (SyntaxTree.check src p d).isOk = true ↔
      ∀ o ∈ occurrences [] p.root, violationAt src d o.1 o.2 = none) ∧
    ((SyntaxTree.check src p .script).isOk = true →
      ((SyntaxTree.check src p .module).isOk = true ↔
        ∀ o ∈ occurrences [] p.root, o.1.kind ≠ "with_statement")) ∧
    ((SyntaxTree.check src p .module).isOk = true →
      (∀ o ∈ occurrences [] p.root, moduleOnly src o.1 o.2 = false) →
      (SyntaxTree.check src p .script).isOk = true) ∧
    (∀ t, SyntaxTree.accept src p = .ok t → t.dialect = .module →
      (∃ o ∈ occurrences [] t.root, moduleOnly src o.1 o.2 = true) ∧
        ∀ o ∈ occurrences [] t.root, o.1.kind ≠ "with_statement") ∧
    ((SyntaxTree.accept src p).isOk = true ↔
      (SyntaxTree.check src p .script).isOk = true ∨
        (SyntaxTree.check src p .module).isOk = true) ∧
    (∀ t, SyntaxTree.check src p .script = .ok t → SyntaxTree.accept src p = .ok t) ∧
    (∀ e, SyntaxTree.accept src p = .error e ↔
      (SyntaxTree.check src p .script).isOk = false ∧
        SyntaxTree.check src p .module = .error e) ∧
    (∀ d, SyntaxTree.parseWith text d = SyntaxTree.check src (ParsedText.ofSource src) d) ∧
    SyntaxTree.build text = SyntaxTree.accept src (ParsedText.ofSource src) ∧
    (∀ (ins : Inspector) e, SyntaxTree.build text = .error e →
      ins.stages text = .error (.parse e.message (min e.offset src.byteSize)
        (lineCol src e.offset).1 (lineCol src e.offset).2)) := by
  intro src
  refine ⟨?first, ?passes, ?script, ?module, ?chosen, ?accepts, ?prefers, ?refused,
    fun _ => rfl, rfl, ?reported⟩
  case first => exact fun d e => check_eq_error_iff src d p
  case passes => exact fun d => check_isOk_iff src d p
  case script => exact check_module_of_script src p
  case module => exact check_script_of_module src p
  case chosen =>
    intro t h hd
    exact ⟨accept_module_moduleOnly src p h hd, accept_module_no_with src p h hd⟩
  case accepts => exact accept_isOk_iff src p
  case prefers => exact fun t => accept_of_script src p
  case refused => exact fun e => accept_eq_error_iff src p
  case reported =>
    intro ins e h
    rw [Inspector.stages_of_build_error ins text h, atOffset_eq_parse]

end PluginLens
