import PluginLens.Plugin.Binding
import Mathlib.Data.List.Basic

/-!
# How a binding is put together

The strategies that look for the declaration behind the primary export walk the top-level
statements and merge what every matching declaration exposes, in statement order. This
module states those walks in closed form: the findings of an object literal, of a function's
`return` statements and of a strategy are concatenations, in order, of the findings of what
was walked, and a strategy's binding is its first match carrying the findings of all matches.
`resolveBindingWith` keeps the first strategy's binding that has capabilities, or else the
first binding found.

The main statement, `resolveBinding_defaultFunction`, is about a plugin whose primary export
is `export default function …`. The export stage and the binding stage look through the
statement on their own; they agree on the function it wraps, by its name or, for an anonymous
function, by the statement's span. So the binding is always found, and the function's
capabilities appear in it in order, as one block.

`resolveFunction_resolveVariable_merged` gives each strategy alone: when it finds nothing, and
otherwise the binding of its first match with the findings of all its matches in order.
`resolveBindingWith_precedence` states the rule among strategies for any list of them: the
first binding with capabilities, else the first binding, else the export is unbound.
-/

namespace PluginLens

open PluginLens.Text PluginLens.Syntax

namespace Extraction

@[simp] theorem merge_capabilities (a b : Extraction) :
    (a.merge b).capabilities = a.capabilities ++ b.capabilities := rfl

@[simp] theorem merge_skipped (a b : Extraction) : (a.merge b).skipped = a.skipped ++ b.skipped :=
  rfl

@[simp] theorem merge_empty (a : Extraction) : a.merge {} = a := by
  cases a
  simp [merge]

theorem foldl_merge {α : Type} (g : α → Extraction) (xs : List α) (acc : Extraction) :
    xs.foldl (fun acc x => acc.merge (g x)) acc =
      ⟨acc.capabilities ++ xs.flatMap (g · |>.capabilities),
        acc.skipped ++ xs.flatMap (g · |>.skipped)⟩ := by
  induction xs generalizing acc with
  | nil =>
    cases acc
    simp
  | cons x xs ih =>
    rw [List.foldl_cons, ih]
    simp

end Extraction

/-- The entries of an object literal that may contribute: its named children other than
comments. -/
def objectEntries (obj : Node) : List Node := obj.namedChildren.filter (·.kind != "comment")

/-- What one `return` statement contributes: the findings of the object literal it gives back,
if it gives one back. -/
def returnFindings (src : Source) (r : Node) : Extraction :=
  match r.returnArgument?.bind Node.objectLiteral? with
  | some o => objectFindings src o
  | none => {}

theorem objectFindings_eq (src : Source) (obj : Node) :
    objectFindings src obj =
      ⟨(objectEntries obj).flatMap (entryFinding src · |>.capabilities),
        (objectEntries obj).flatMap (entryFinding src · |>.skipped)⟩ := by
  rw [objectFindings, Extraction.foldl_merge]
  rfl

theorem extractFromFunction_eq (src : Source) (f : Node) :
    extractFromFunction src f =
      ⟨f.returnsOf.flatMap (returnFindings src · |>.capabilities),
        f.returnsOf.flatMap (returnFindings src · |>.skipped)⟩ := by
  rw [extractFromFunction,
    List.foldl_ext _ (fun acc r => acc.merge (returnFindings src r)) _ ?step,
    Extraction.foldl_merge]
  · rfl
  case step =>
    intro acc r _
    unfold returnFindings
    cases r.returnArgument?.bind Node.objectLiteral? <;> simp

/-- Merging the bindings of a list into the first one keeps the first and appends the findings
of all of them. -/
theorem foldl_mergeFound_some {α : Type} (g : α → ResolvedBinding) (xs : List α)
    (b : ResolvedBinding) :
    xs.foldl (fun found x => mergeFound found (g x)) (some b) =
      some { b with
        extraction := ⟨b.extraction.capabilities ++ xs.flatMap (g · |>.extraction.capabilities),
          b.extraction.skipped ++ xs.flatMap (g · |>.extraction.skipped)⟩ } := by
  induction xs generalizing b with
  | nil =>
    obtain ⟨name, kind, span, ⟨caps, skipped⟩⟩ := b
    simp
  | cons x xs ih =>
    rw [List.foldl_cons, mergeFound, ih]
    simp

theorem foldl_mergeFound {α : Type} (g : α → ResolvedBinding) (xs : List α) :
    xs.foldl (fun found x => mergeFound found (g x)) none =
      xs.head?.map fun x =>
        { g x with
          extraction := ⟨xs.flatMap (g · |>.extraction.capabilities),
            xs.flatMap (g · |>.extraction.skipped)⟩ } := by
  cases xs with
  | nil => rfl
  | cons x xs =>
    rw [List.foldl_cons, mergeFound, foldl_mergeFound_some]
    simp

/-- Merging only the bindings of the elements that give one is merging the bindings of the
elements kept by `filterMap`. -/
theorem foldl_mergeFound_filterMap {α β : Type} (m : α → Option β) (g : β → ResolvedBinding)
    (xs : List α) (found : Option ResolvedBinding) :
    xs.foldl (fun found x => (m x).elim found fun y => mergeFound found (g y)) found =
      (xs.filterMap m).foldl (fun found y => mergeFound found (g y)) found := by
  induction xs generalizing found with
  | nil => rfl
  | cons x xs ih => cases h : m x <;> simp [h, ih]

/-- The function a top-level statement declares, when it matches the primary export. -/
def matchedFunction? (src : Source) (primary : ExportDescriptor) (stmt : Node) : Option Node :=
  stmt.declaredFunction?.filter (functionMatches src stmt · primary)

/-- The binding one matching function gives on its own. -/
def functionBinding (src : Source) (primary : ExportDescriptor) (f : Node) : ResolvedBinding :=
  { name := primary.exportedName, kind := .function, span := Span.ofNode f
    extraction := extractFromFunction src f }

/-- The function strategy finds the first matching function, with the findings of all matching
functions in statement order. -/
theorem resolveFunction_eq (src : Source) (stmts : List Node) (primary : ExportDescriptor) :
    resolveFunction src stmts primary =
      (stmts.filterMap (matchedFunction? src primary)).head?.map fun f =>
        { functionBinding src primary f with
          extraction :=
            ⟨(stmts.filterMap (matchedFunction? src primary)).flatMap
                (extractFromFunction src · |>.capabilities),
              (stmts.filterMap (matchedFunction? src primary)).flatMap
                (extractFromFunction src · |>.skipped)⟩ } := by
  rw [resolveFunction,
    List.foldl_ext _ (fun found stmt => (matchedFunction? src primary stmt).elim found
      fun f => mergeFound found (functionBinding src primary f)) _ ?step,
    foldl_mergeFound_filterMap, foldl_mergeFound]
  · rfl
  case step =>
    intro found stmt _
    unfold matchedFunction?
    cases stmt.declaredFunction? with
    | none => rfl
    | some f =>
      by_cases h : functionMatches src stmt f primary <;> simp [h, Option.filter, functionBinding]

section Strategies

variable {ks : List BindingStrategy} {src : Source} {stmts : List Node} {d : ExportDescriptor}

theorem resolveBindingWith_isOk {k : BindingStrategy} {b : ResolvedBinding} (hk : k ∈ ks)
    (hb : k.resolve src stmts d = some b) :
    ∃ b', resolveBindingWith ks src stmts d = .ok b' := by
  have hmem : b ∈ ks.filterMap fun s => s.resolve src stmts d := List.mem_filterMap.2 ⟨k, hk, hb⟩
  dsimp only [resolveBindingWith]
  split
  · exact ⟨_, rfl⟩
  · cases h : (ks.filterMap fun s => s.resolve src stmts d).head? with
    | none => simp_all
    | some b' => exact ⟨b', rfl⟩

/-- The binding found is the binding of one of the strategies. -/
theorem resolveBindingWith_mem {b : ResolvedBinding}
    (h : resolveBindingWith ks src stmts d = .ok b) :
    ∃ k ∈ ks, k.resolve src stmts d = some b := by
  dsimp only [resolveBindingWith] at h
  split at h
  · rename_i hfind
    cases h
    exact List.mem_filterMap.1 (List.mem_of_find?_eq_some hfind)
  · split at h
    · rename_i hhead
      cases h
      exact List.mem_filterMap.1 (List.mem_of_mem_head? hhead)
    · cases h

theorem resolveBindingWith_cons {k : BindingStrategy} {b : ResolvedBinding}
    (hb : k.resolve src stmts d = some b) (hc : b.hasCapabilities = true) :
    resolveBindingWith (k :: ks) src stmts d = .ok b := by
  simp [resolveBindingWith, hb, hc]

/-- When a statement's function matches, the function strategy finds a function binding that
carries the capabilities of every matching function, in statement order. -/
theorem resolveBy_function {f : Node} (hmem : f ∈ stmts.filterMap (matchedFunction? src d)) :
    ∃ b, functionStrategy.resolve src stmts d = some b ∧ b.kind = .function ∧
      b.extraction.capabilities =
        (stmts.filterMap (matchedFunction? src d)).flatMap
          (extractFromFunction src · |>.capabilities) := by
  obtain ⟨g, gs, hfs⟩ := List.exists_cons_of_ne_nil (List.ne_nil_of_mem hmem)
  simp only [functionStrategy, resolveFunction_eq, hfs]
  exact ⟨_, rfl, rfl, rfl⟩

end Strategies

/-! ## Each strategy alone

A strategy folds the top-level statements with a binding that the first match creates and
later matches only add findings to. In closed form: the first match fixes the binding's span,
and its findings are those of every match in order. -/

section EachStrategy

variable {src : Source} {stmts : List Node} {d : ExportDescriptor}

/-- A declared function matches the primary export when both carry the same name, or when
both are anonymous and the statement is the export's own `export default`. -/
def MatchesPrimary (src : Source) (d : ExportDescriptor) (stmt f : Node) : Prop :=
  (∃ n, d.exportedName = some n ∧ f.declaredName? src = some n) ∨
    (f.declaredName? src = none ∧ d.exportedName = none ∧ d.form = .defaultExport ∧
      stmt.isDefaultExport = true ∧ Span.ofNode stmt = d.span)

theorem functionMatches_iff {stmt f : Node} :
    functionMatches src stmt f d = true ↔ MatchesPrimary src d stmt f := by
  unfold functionMatches MatchesPrimary
  cases f.declaredName? src <;> cases d.exportedName <;> simp [and_assoc]

/-- A statement declares a function itself when it is a function declaration, or else through
`export default` when what it exports is a function. -/
theorem declaredFunction?_eq_some_iff {stmt f : Node} :
    stmt.declaredFunction? = some f ↔
      (stmt.kind ∈ functionDeclarationKinds ∧ f = stmt) ∨
        (stmt.kind ∉ functionDeclarationKinds ∧ stmt.isDefaultExport = true ∧
          stmt.defaultExported? = some f ∧ f.isFunction = true) := by
  unfold Node.declaredFunction?
  by_cases hk : stmt.kind ∈ functionDeclarationKinds
  · rw [if_pos (List.contains_iff_mem.2 hk), Option.some.injEq]
    exact ⟨fun h => .inl ⟨hk, h.symm⟩, fun h => h.elim (fun h => h.2.symm) (fun h => absurd hk h.1)⟩
  rw [if_neg (fun h => hk (List.contains_iff_mem.1 h))]
  by_cases hd : stmt.isDefaultExport = true
  · rw [if_neg (by simp [hd])]
    cases hx : stmt.defaultExported? with
    | none => simp [hk]
    | some g =>
      by_cases hg : g.isFunction = true
      · simp only [hg, if_true, Option.some.injEq]
        constructor
        · rintro rfl
          exact .inr ⟨hk, hd, rfl, hg⟩
        · rintro (⟨h, -⟩ | ⟨-, -, hgf, -⟩)
          · exact absurd h hk
          · exact hgf
      · simp only [hg, Bool.false_eq_true, if_false, reduceCtorEq, false_iff]
        rintro (⟨h, -⟩ | ⟨-, -, hgf, hf⟩)
        · exact hk h
        · cases hgf
          exact hg hf
  · rw [if_pos (by simp [hd])]
    simp [hk, hd]

theorem matchedFunction?_eq_some_iff {stmt f : Node} :
    matchedFunction? src d stmt = some f ↔
      stmt.declaredFunction? = some f ∧ MatchesPrimary src d stmt f := by
  rw [matchedFunction?, Option.filter_eq_some_iff, functionMatches_iff]

theorem matchedFunction?_eq_none_iff {stmt : Node} :
    matchedFunction? src d stmt = none ↔
      ∀ f, stmt.declaredFunction? = some f → ¬MatchesPrimary src d stmt f := by
  rw [Option.eq_none_iff_forall_ne_some]
  refine forall_congr' fun f => ?_
  rw [Ne, matchedFunction?_eq_some_iff, not_and]

/-- Whether a declarator declares `wanted` by a plain name. -/
def declaresName (src : Source) (wanted : String) (x : Node) : Bool :=
  (x.child? "name").any fun id => id.kind == "identifier" && src.slice id.start id.stop == wanted

/-- The binding one declarator of the exported name gives on its own. -/
def variableBinding (src : Source) (wanted : String) (x : Node) : ResolvedBinding :=
  { name := some wanted, kind := .variable, span := Span.ofNode x
    extraction := extractFromInitializer src (x.child? "value") }

/-- The variable strategy finds the first declarator of the exported name, with the findings of
all of them in order. -/
theorem resolveVariable_eq (wanted : String) (h : d.exportedName = some wanted) :
    resolveVariable src stmts d =
      (((stmts.flatMap Node.declaratorsOf).filter (declaresName src wanted)).head?.map fun x =>
        { variableBinding src wanted x with
          extraction :=
            ⟨((stmts.flatMap Node.declaratorsOf).filter (declaresName src wanted)).flatMap
                fun x => (extractFromInitializer src (x.child? "value")).capabilities,
              ((stmts.flatMap Node.declaratorsOf).filter (declaresName src wanted)).flatMap
                fun x => (extractFromInitializer src (x.child? "value")).skipped⟩ }) := by
  rw [resolveVariable, h]
  dsimp only
  rw [List.filter_congr (q := declaresName src wanted) fun x _ => by
    unfold declaresName
    cases x.child? "name" <;> rfl]
  exact foldl_mergeFound (variableBinding src wanted) _

/-- Each strategy alone. The function strategy finds nothing exactly when no top-level
statement declares, itself or through `export default`, a function matching the primary export;
otherwise it gives a function binding named as the export, over the first matching function,
with the findings of every matching function in statement order. The variable strategy finds
nothing for an export without a name, and otherwise exactly when no declarator of a top-level
`var`, `let` or `const` declares the exported name plainly; else it gives a variable binding
over the first such declarator, with the findings of every such declarator's initial value, in
order. -/
theorem resolveFunction_resolveVariable_merged (src : Source) (stmts : List Node) (d : ExportDescriptor) :
    (∀ stmt f : Node, stmt.declaredFunction? = some f ↔
      (stmt.kind ∈ functionDeclarationKinds ∧ f = stmt) ∨
        (stmt.kind ∉ functionDeclarationKinds ∧ stmt.isDefaultExport = true ∧
          stmt.defaultExported? = some f ∧ f.isFunction = true)) ∧
    (∀ stmt f : Node, matchedFunction? src d stmt = some f ↔
      stmt.declaredFunction? = some f ∧ MatchesPrimary src d stmt f) ∧
    (resolveFunction src stmts d = none ↔
      ∀ stmt ∈ stmts, ∀ f, stmt.declaredFunction? = some f → ¬MatchesPrimary src d stmt f) ∧
    (∀ f fs, stmts.filterMap (matchedFunction? src d) = f :: fs →
      resolveFunction src stmts d = some
        { name := d.exportedName, kind := .function, span := Span.ofNode f
          extraction := ⟨(f :: fs).flatMap fun g => (extractFromFunction src g).capabilities,
            (f :: fs).flatMap fun g => (extractFromFunction src g).skipped⟩ }) ∧
    (d.exportedName = none → resolveVariable src stmts d = none) ∧
    ∀ wanted, d.exportedName = some wanted →
      (resolveVariable src stmts d = none ↔
        ∀ stmt ∈ stmts, ∀ x ∈ stmt.declaratorsOf, declaresName src wanted x = false) ∧
      ∀ x xs, (stmts.flatMap Node.declaratorsOf).filter (declaresName src wanted) = x :: xs →
        resolveVariable src stmts d = some
          { name := some wanted, kind := .variable, span := Span.ofNode x
            extraction :=
              ⟨(x :: xs).flatMap fun y => (extractFromInitializer src (y.child? "value")).capabilities,
                (x :: xs).flatMap fun y => (extractFromInitializer src (y.child? "value")).skipped⟩ } := by
  refine ⟨fun _ _ => declaredFunction?_eq_some_iff, fun _ _ => matchedFunction?_eq_some_iff,
    ?noFunction, ?function, ?unnamed, fun wanted hw => ⟨?noDeclarator, ?declarator⟩⟩
  case noFunction =>
    rw [resolveFunction_eq, Option.map_eq_none_iff, List.head?_eq_none_iff,
      List.filterMap_eq_nil_iff]
    exact forall₂_congr fun _ _ => matchedFunction?_eq_none_iff
  case function =>
    intro f fs hfs
    rw [resolveFunction_eq, hfs]
    rfl
  case unnamed =>
    intro hn
    rw [resolveVariable, hn]
  case noDeclarator =>
    rw [resolveVariable_eq wanted hw, Option.map_eq_none_iff, List.head?_eq_none_iff,
      List.filter_eq_nil_iff]
    simp only [List.mem_flatMap, Bool.not_eq_true, forall_exists_index, and_imp]
    exact ⟨fun h stmt hs x hx => h x stmt hs hx, fun h x stmt hs hx => h stmt hs x hx⟩
  case declarator =>
    intro x xs hxs
    rw [resolveVariable_eq wanted hw, hxs]
    rfl

end EachStrategy

/-! ## Precedence among strategies

`resolveBindingWith` is a precedence rule, not a merge: the answer is one strategy's binding
as that strategy gives it alone. Which one depends on where the first binding with
capabilities lies against the first binding at all, and the lemmas below say so for strategy
lists of any length, split as `pre ++ k :: post` around the strategy that wins. -/

section Precedence

variable {ks : List BindingStrategy} {src : Source} {stmts : List Node} {d : ExportDescriptor}

/-- Strategies whose bindings all lack capabilities put nothing in front of a later one with
capabilities. -/
theorem find?_capable_eq_none {pre : List BindingStrategy}
    (hpre : ∀ k ∈ pre, ∀ b, k.resolve src stmts d = some b → b.hasCapabilities = false) :
    (pre.filterMap fun s => s.resolve src stmts d).find? (·.hasCapabilities) = none := by
  rw [List.find?_eq_none]
  intro b hb
  obtain ⟨k, hk, hkb⟩ := List.mem_filterMap.1 hb
  simp [hpre k hk b hkb]

theorem resolveBindingWith_firstCapable {pre post : List BindingStrategy} {k : BindingStrategy}
    {b : ResolvedBinding}
    (hpre : ∀ k' ∈ pre, ∀ b', k'.resolve src stmts d = some b' → b'.hasCapabilities = false)
    (hb : k.resolve src stmts d = some b) (hc : b.hasCapabilities = true) :
    resolveBindingWith (pre ++ k :: post) src stmts d = .ok b := by
  have hfind : ((pre ++ k :: post).filterMap fun s => s.resolve src stmts d).find?
      (·.hasCapabilities) = some b := by
    rw [List.filterMap_append, List.find?_append, find?_capable_eq_none hpre,
      List.filterMap_cons, hb]
    simp [hc]
  dsimp only [resolveBindingWith]
  rw [hfind]

theorem resolveBindingWith_firstFound
    (hnone : ∀ k ∈ ks, ∀ b, k.resolve src stmts d = some b → b.hasCapabilities = false)
    {pre post : List BindingStrategy} {k : BindingStrategy} {b : ResolvedBinding}
    (hks : ks = pre ++ k :: post) (hpre : ∀ k' ∈ pre, k'.resolve src stmts d = none)
    (hb : k.resolve src stmts d = some b) :
    resolveBindingWith ks src stmts d = .ok b := by
  have hhead : (ks.filterMap fun s => s.resolve src stmts d).head? = some b := by
    rw [hks, List.filterMap_append, List.filterMap_eq_nil_iff.2 hpre, List.filterMap_cons, hb]
    rfl
  simp [resolveBindingWith, find?_capable_eq_none hnone, hhead]

/-- The export is unbound exactly when no strategy finds a binding. -/
theorem resolveBindingWith_eq_error_iff :
    resolveBindingWith ks src stmts d = .error (.noBinding d.exportedName) ↔
      ∀ k ∈ ks, k.resolve src stmts d = none := by
  constructor
  · intro h k hk
    cases hb : k.resolve src stmts d with
    | none => rfl
    | some b =>
      obtain ⟨b', hb'⟩ := resolveBindingWith_isOk hk hb
      rw [h] at hb'
      cases hb'
  · intro h
    simp [resolveBindingWith, List.filterMap_eq_nil_iff.2 h]

theorem resolveBy_function_kind {b : ResolvedBinding}
    (h : functionStrategy.resolve src stmts d = some b) : b.kind = .function := by
  simp only [functionStrategy, resolveFunction_eq, Option.map_eq_some_iff] at h
  obtain ⟨f, -, rfl⟩ := h
  rfl

/-- Under the default strategies a variable binding is the variable strategy's own, and stands
only where the function strategy found nothing or nothing with capabilities. -/
theorem resolveBinding_variable {b : ResolvedBinding}
    (h : resolveBinding src stmts d = .ok b) (hk : b.kind = .variable) :
    variableStrategy.resolve src stmts d = some b ∧
      (functionStrategy.resolve src stmts d = none ∨
        ∃ bf, functionStrategy.resolve src stmts d = some bf ∧ bf.hasCapabilities = false) := by
  obtain ⟨k, hk', hkb⟩ := resolveBindingWith_mem h
  have hvar : variableStrategy.resolve src stmts d = some b := by
    simp only [defaultStrategies, List.mem_cons, List.not_mem_nil, or_false] at hk'
    rcases hk' with rfl | rfl
    · rw [resolveBy_function_kind hkb] at hk
      cases hk
    · exact hkb
  refine ⟨hvar, ?_⟩
  cases hf : functionStrategy.resolve src stmts d with
  | none => exact .inl rfl
  | some bf =>
    refine .inr ⟨bf, rfl, ?_⟩
    cases hc : bf.hasCapabilities with
    | false => rfl
    | true =>
      have hwin : resolveBinding src stmts d = .ok bf := resolveBindingWith_cons hf hc
      rw [h, Except.ok.injEq] at hwin
      rw [hwin, resolveBy_function_kind hf] at hk
      cases hk

/-- Binding resolution is a precedence rule over the strategies, for lists of any length: the
first strategy whose binding has capabilities wins; with none such, the first binding found
wins; the export is unbound exactly when no strategy finds anything, the empty list included.
The answer is always one strategy's binding as it gives it alone. Under the default
strategies a function binding with capabilities wins over any variable, and a variable binding
stands only where the function strategy found nothing or nothing with capabilities. -/
theorem resolveBindingWith_precedence (ks : List BindingStrategy) (src : Source) (stmts : List Node)
    (d : ExportDescriptor) :
    (∀ pre k post b, ks = pre ++ k :: post →
      (∀ k' ∈ pre, ∀ b', k'.resolve src stmts d = some b' → b'.hasCapabilities = false) →
      k.resolve src stmts d = some b → b.hasCapabilities = true →
      resolveBindingWith ks src stmts d = .ok b) ∧
    ((∀ k ∈ ks, ∀ b, k.resolve src stmts d = some b → b.hasCapabilities = false) →
      ∀ pre k post b, ks = pre ++ k :: post → (∀ k' ∈ pre, k'.resolve src stmts d = none) →
      k.resolve src stmts d = some b → resolveBindingWith ks src stmts d = .ok b) ∧
    (resolveBindingWith ks src stmts d = .error (.noBinding d.exportedName) ↔
      ∀ k ∈ ks, k.resolve src stmts d = none) ∧
    (∀ b, resolveBindingWith ks src stmts d = .ok b → ∃ k ∈ ks, k.resolve src stmts d = some b) ∧
    (∀ b, functionStrategy.resolve src stmts d = some b → b.hasCapabilities = true →
      resolveBinding src stmts d = .ok b) ∧
    (∀ b, resolveBinding src stmts d = .ok b → b.kind = .variable →
      functionStrategy.resolve src stmts d = none ∨
        ∃ bf, functionStrategy.resolve src stmts d = some bf ∧ bf.hasCapabilities = false) := by
  refine ⟨?capable, ?found, resolveBindingWith_eq_error_iff, fun _ h => resolveBindingWith_mem h,
    fun _ hb hc => resolveBindingWith_cons hb hc, fun _ h hk => (resolveBinding_variable h hk).2⟩
  case capable =>
    rintro pre k post b rfl hpre hb hc
    exact resolveBindingWith_firstCapable hpre hb hc
  case found =>
    intro hnone pre k post b hks hpre hb
    exact resolveBindingWith_firstFound hnone hks hpre hb

end Precedence

/-- The export stage names an `export default` function the way the binding stage matches it:
by its name, or, when it has none, by the span of the statement. -/
theorem matchedFunction?_describeDefault {src : Source} {S f : Node}
    (hdef : S.isDefaultExport = true) (hf : S.defaultExported? = some f)
    (hfun : f.isFunction = true) :
    matchedFunction? src (describeDefault src S) S = some f := by
  have hkind : S.kind = "export_statement" := by
    simp only [Node.isDefaultExport, Bool.and_eq_true, beq_iff_eq] at hdef
    exact hdef.1
  have hdecl : S.declaredFunction? = some f := by
    simp [Node.declaredFunction?, hdef, hf, hfun, hkind, functionDeclarationKinds]
  have hname : (describeDefault src S).exportedName = f.declaredName? src := by
    simp [describeDefault, hf, hfun]
  have hmatch : functionMatches src S f (describeDefault src S) = true := by
    unfold functionMatches
    rw [hname]
    cases f.declaredName? src with
    | some n => simp
    | none => simp [describeDefault, hdef]
  simp [matchedFunction?, hdecl, Option.filter, hmatch]

/-- The primary export `export default function …` always has a binding, and when the function
exposes capabilities the binding is a function binding that lists them, in order, as one
block. -/
theorem resolveBinding_defaultFunction {src : Source} {stmts : List Node} {S f : Node}
    (hS : S ∈ stmts) (hdef : S.isDefaultExport = true) (hf : S.defaultExported? = some f)
    (hfun : f.isFunction = true) :
    ∃ b, resolveBinding src stmts (describeDefault src S) = .ok b ∧
      ((extractFromFunction src f).capabilities ≠ [] →
        b.kind = .function ∧
          (extractFromFunction src f).capabilities <:+: b.extraction.capabilities) := by
  have hmem : f ∈ stmts.filterMap (matchedFunction? src (describeDefault src S)) :=
    List.mem_filterMap.2 ⟨S, hS, matchedFunction?_describeDefault hdef hf hfun⟩
  obtain ⟨b, hres, hkind, hcaps⟩ := resolveBy_function hmem
  have hinfix : (extractFromFunction src f).capabilities <:+: b.extraction.capabilities := by
    rw [hcaps, List.flatMap_def]
    exact List.infix_of_mem_flatten (List.mem_map_of_mem hmem)
  by_cases hc : b.hasCapabilities = true
  · exact ⟨b, resolveBindingWith_cons hres hc, fun _ => ⟨hkind, hinfix⟩⟩
  · obtain ⟨b', hb'⟩ := resolveBindingWith_isOk List.mem_cons_self hres
    refine ⟨b', hb', fun hne => absurd ?_ hc⟩
    have hnonempty : b.extraction.capabilities ≠ [] := fun hnil =>
      hne (List.eq_nil_of_infix_nil (hnil ▸ hinfix))
    simpa [ResolvedBinding.hasCapabilities] using hnonempty

/-- The function of `export default function(){return{a}}`, as the text is read. -/
def anonymousDefaultFunction : Node :=
  .mk "function_expression" true false (some "value") 15 36
    [.mk "function" false false none 15 23 [],
     .mk "formal_parameters" true false (some "parameters") 23 25
       [.mk "(" false false none 23 24 [], .mk ")" false false none 24 25 []],
     .mk "statement_block" true false (some "body") 25 36
       [.mk "\x7b" false false none 25 26 [],
        .mk "return_statement" true false none 26 35
          [.mk "return" false false none 26 32 [],
           .mk "object" true false none 32 35
             [.mk "\x7b" false false none 32 33 [],
              .mk "shorthand_property_identifier" true false none 33 34 [],
              .mk "\x7d" false false none 34 35 []]],
        .mk "\x7d" false false none 35 36 []]]

/-- The statement `export default function(){return{a}}`. -/
def anonymousDefaultExport : Node :=
  .mk "export_statement" true false none 0 36
    [.mk "export" false false none 0 6 [], .mk "default" false false none 7 14 [],
     anonymousDefaultFunction]

theorem resolveBinding_anonymousDefaultExport :
    let src := Source.ofString "export default function()\x7breturn\x7ba\x7d\x7d"
    anonymousDefaultExport.isDefaultExport = true ∧
      anonymousDefaultExport.defaultExported? = some anonymousDefaultFunction ∧
      anonymousDefaultFunction.isFunction = true ∧
      ∃ b, resolveBinding src [anonymousDefaultExport]
          (describeDefault src anonymousDefaultExport) = .ok b ∧
        ((extractFromFunction src anonymousDefaultFunction).capabilities ≠ [] →
          b.kind = .function ∧
            (extractFromFunction src anonymousDefaultFunction).capabilities <:+:
              b.extraction.capabilities) :=
  ⟨by decide, rfl, by decide,
    resolveBinding_defaultFunction List.mem_cons_self (by decide) rfl (by decide)⟩

end PluginLens
