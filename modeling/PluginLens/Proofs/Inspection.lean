import PluginLens.Inspection.Inspector
import PluginLens.Docs.External

/-!
# What an inspection report holds

An inspection fills each field of its report from one stage, or records why that stage
failed. The stages from the syntax to the binding form one chain: `Inspector.stages` runs
them as a computation that stops at the first failure, so a later stage never runs after an
earlier one failed. The report keeps what the chain produced before it stopped (the primary
export is kept even when its binding cannot be found), then the failure of the chain if
there was one, and then, whatever happened before, the one answer of the documentation
extractor.

The documentation command is stated for every way of running a program
(`commandExtractor_run`): the runner is a parameter, as the process the extractor starts is
outside the program.

The main statement is `inspectText_report`: which fields are filled for every combination of
failures, that the issues are the chain's failure followed by the extractor's, that a report
is complete exactly when all four findings are present, and that the inspection warns once
per issue and once more when several statements claim the primary export.
-/

namespace PluginLens

open PluginLens.Text PluginLens.Syntax PluginLens.Docs

/-- The number of warnings among diagnostics. -/
def warnings (ds : List Diagnostic) : Nat := ds.countP (·.severity == .warn)

@[simp] theorem warnings_nil : warnings [] = 0 := rfl

@[simp] theorem warnings_append (ds es : List Diagnostic) :
    warnings (ds ++ es) = warnings ds + warnings es :=
  List.countP_append

/-- The issue a failed computation records, and none for a successful one. -/
def issuesOf {α : Type} : Except InspectError α → List Issue
  | .error e => [Issue.of e]
  | .ok _ => []

@[simp] theorem issuesOf_error {α : Type} (e : InspectError) :
    issuesOf (.error e : Except InspectError α) = [Issue.of e] := rfl

@[simp] theorem issuesOf_ok {α : Type} (a : α) :
    issuesOf (.ok a : Except InspectError α) = [] := rfl

@[simp] theorem mapError_ok {ε ε' α : Type} (f : ε → ε') (a : α) :
    (Except.ok a : Except ε α).mapError f = .ok a := rfl

@[simp] theorem mapError_error {ε ε' α : Type} (f : ε → ε') (e : ε) :
    (Except.error e : Except ε α).mapError f = .error (f e) := rfl

namespace Progress

variable (p : Progress)

@[simp] theorem emit_report (s : Severity) (m : String) : (p.emit s m).report = p.report := rfl

@[simp] theorem fail_report (e : InspectError) : (p.fail e).report = p.report.record e := rfl

@[simp] theorem update_report (f : Report → Report) : (p.update f).report = f p.report := rfl

@[simp] theorem update_diagnostics (f : Report → Report) :
    (p.update f).diagnostics = p.diagnostics := rfl

@[simp] theorem warnings_emit (s : Severity) (m : String) :
    warnings (p.emit s m).diagnostics = warnings p.diagnostics + if s = .warn then 1 else 0 := by
  cases s <;> simp [emit, warnings]

@[simp] theorem warnings_fail (e : InspectError) :
    warnings (p.fail e).diagnostics = warnings p.diagnostics + 1 := by
  simp [fail]

@[simp] theorem warnings_emit_if_several (n : Nat) (m : String) :
    warnings (if n > 1 then p.emit .warn m else p).diagnostics =
      warnings p.diagnostics + if 2 ≤ n then 1 else 0 := by
  by_cases h : 2 ≤ n
  · simp [h, show n > 1 by omega]
  · simp [h, show ¬n > 1 by omega]

end Progress

namespace Inspector

/-- The stages from the syntax to the binding, as one computation that stops at the first
failure: the accepted tree, its primary export, and the binding behind it. -/
def stages (ins : Inspector) (text : String) :
    Except InspectError (SyntaxTree × ExportDescriptor × ResolvedBinding) := do
  let t ← (SyntaxTree.build text).mapError fun e =>
    InspectError.atOffset e.message e.offset (Source.ofString text)
  let d ← primaryExport (describeExports t.source t.statements ins.exportSlot)
  let b ← resolveBinding t.source t.statements d
  return (t, d, b)

/-- The number of statements of an accepted text that claim the primary export. -/
def primaryCount (ins : Inspector) (text : String) : Nat :=
  match SyntaxTree.build text with
  | .ok t => ((describeExports t.source t.statements ins.exportSlot).filter (·.isPrimary)).length
  | .error _ => 0

/-- The primary export of an accepted text, whether or not its binding is found. -/
def primaryOf (ins : Inspector) (text : String) : Option ExportDescriptor :=
  match SyntaxTree.build text with
  | .ok t => (primaryExport (describeExports t.source t.statements ins.exportSlot)).toOption
  | .error _ => none

variable (ins : Inspector) (text : String)

theorem stages_of_build_error {e : SyntaxError} (h : SyntaxTree.build text = .error e) :
    ins.stages text = .error (InspectError.atOffset e.message e.offset (Source.ofString text)) := by
  simp [stages, h, bind, Except.bind]

theorem stages_of_export_error {t : SyntaxTree} {e : InspectError}
    (h : SyntaxTree.build text = .ok t)
    (hp : primaryExport (describeExports t.source t.statements ins.exportSlot) = .error e) :
    ins.stages text = .error e := by
  simp [stages, h, hp, bind, Except.bind]

theorem stages_of_primary {t : SyntaxTree} {d : ExportDescriptor}
    (h : SyntaxTree.build text = .ok t)
    (hp : primaryExport (describeExports t.source t.statements ins.exportSlot) = .ok d) :
    ins.stages text = (resolveBinding t.source t.statements d).map ((t, d, ·)) := by
  cases hb : resolveBinding t.source t.statements d <;>
    simp [stages, h, hp, hb, bind, Except.bind, Except.map, pure, Except.pure]

theorem stages_eq_ok_iff {t : SyntaxTree} {d : ExportDescriptor} {b : ResolvedBinding} :
    ins.stages text = .ok (t, d, b) ↔
      SyntaxTree.build text = .ok t ∧
      primaryExport (describeExports t.source t.statements ins.exportSlot) = .ok d ∧
      resolveBinding t.source t.statements d = .ok b := by
  constructor
  · intro hs
    cases h : SyntaxTree.build text with
    | error e => simp [stages_of_build_error ins text h] at hs
    | ok t' =>
      cases hp : primaryExport (describeExports t'.source t'.statements ins.exportSlot) with
      | error e => simp [stages_of_export_error ins text h hp] at hs
      | ok d' =>
        cases hb : resolveBinding t'.source t'.statements d' with
        | error e => simp [stages_of_primary ins text h hp, hb, Except.map] at hs
        | ok b' =>
          simp only [stages_of_primary ins text h hp, hb, Except.map, Except.ok.injEq,
            Prod.mk.injEq] at hs
          obtain ⟨rfl, rfl, rfl⟩ := hs
          exact ⟨rfl, hp, hb⟩
  · rintro ⟨h, hp, hb⟩
    simp [stages_of_primary ins text h hp, hb, Except.map]

theorem primaryExport_error {ds : List ExportDescriptor} {e : InspectError}
    (h : primaryExport ds = .error e) : e = .noPrimaryExport := by
  unfold primaryExport at h
  split at h <;> simp_all

theorem resolveBindingWith_error {ks : List BindingStrategy} {src : Source} {stmts : List Node}
    {d : ExportDescriptor} {e : InspectError} (h : resolveBindingWith ks src stmts d = .error e) :
    e = .noBinding d.exportedName := by
  dsimp only [resolveBindingWith] at h
  split at h
  · simp at h
  · split at h <;> simp_all

/-- A failure of the chain is one of reading the syntax, finding the primary export, or finding
its binding. -/
theorem stages_error_stage {e : InspectError} (h : ins.stages text = .error e) :
    e.stage = .parse ∨ e.stage = .exports ∨ e.stage = .binding := by
  cases hb : SyntaxTree.build text with
  | error se =>
    rw [stages_of_build_error ins text hb, Except.error.injEq] at h
    subst h
    simp [InspectError.atOffset, InspectError.stage]
  | ok t =>
    cases hp : primaryExport (describeExports t.source t.statements ins.exportSlot) with
    | error e' =>
      rw [stages_of_export_error ins text hb hp, Except.error.injEq] at h
      subst h
      simp [primaryExport_error hp, InspectError.stage]
    | ok d =>
      cases hr : resolveBinding t.source t.statements d with
      | error e' =>
        simp only [stages_of_primary ins text hb hp, hr, Except.map, Except.error.injEq] at h
        subst h
        simp [resolveBindingWith_error hr, InspectError.stage]
      | ok b => simp [stages_of_primary ins text hb hp, hr, Except.map] at h

/-- What the chain leaves in a report started empty: the summary of the accepted tree, the
primary export, the binding's kind and capabilities, and the issue of the failing stage. -/
theorem runPipeline_report (path : String) :
    (ins.runPipeline text ⟨Report.empty path, []⟩).report =
      { Report.empty path with
        tree := (SyntaxTree.build text).toOption.map TreeSummary.of
        export? := ins.primaryOf text
        bindingKind := (ins.stages text).toOption.map (·.2.2.kind)
        capabilities := (ins.stages text).toOption.map (·.2.2.extraction.capabilities)
        issues := issuesOf (ins.stages text) } := by
  cases h : SyntaxTree.build text with
  | error e =>
    simp [runPipeline, primaryOf, stages_of_build_error ins text h, h, Report.record,
      Report.empty, Except.toOption]
  | ok t =>
    cases hp : primaryExport (describeExports t.source t.statements ins.exportSlot) with
    | error e =>
      simp [runPipeline, primaryOf, apply_ite Progress.report, stages_of_export_error ins text h hp,
        h, hp, Report.record, Report.empty, Except.toOption]
    | ok d =>
      cases hb : resolveBinding t.source t.statements d with
      | error e =>
        simp [runPipeline, primaryOf, apply_ite Progress.report, stages_of_primary ins text h hp,
          h, hp, hb, Report.record, Report.empty, Except.toOption, Except.map]
      | ok b =>
        simp [runPipeline, primaryOf, apply_ite Progress.report, stages_of_primary ins text h hp,
          h, hp, hb, Report.empty, Except.toOption, Except.map]

theorem warnings_bindingNotes (src : Source) (path : String) (b : ResolvedBinding) :
    warnings (bindingNotes src path b) = 0 := by
  simp [bindingNotes, warnings, List.countP_map, Function.comp_def]

/-- The chain warns once when several statements claim the primary export, and once more when
a stage fails. -/
theorem warnings_runPipeline (path : String) :
    warnings (ins.runPipeline text ⟨Report.empty path, []⟩).diagnostics =
      (issuesOf (ins.stages text)).length + if 2 ≤ ins.primaryCount text then 1 else 0 := by
  cases h : SyntaxTree.build text with
  | error e =>
    simp [runPipeline, primaryCount, stages_of_build_error ins text h, h]
  | ok t =>
    cases hp : primaryExport (describeExports t.source t.statements ins.exportSlot) with
    | error e =>
      simp [runPipeline, primaryCount, stages_of_export_error ins text h hp, h, hp, Nat.add_comm]
    | ok d =>
      cases hb : resolveBinding t.source t.statements d with
      | error e =>
        simp [runPipeline, primaryCount, stages_of_primary ins text h hp, h, hp, hb, Except.map,
          Nat.add_comm]
      | ok b =>
        simp [runPipeline, primaryCount, stages_of_primary ins text h hp, h, hp, hb,
          warnings_bindingNotes, Except.map]

/-- The documentation step sets the documentation data or records the extractor's failure,
asking about the report's file once. -/
theorem attachDocs_report (p : Progress) :
    (ins.attachDocs p).report =
      { p.report with
        docComments := (ins.docs [p.report.path]).toOption.or p.report.docComments
        issues := p.report.issues ++ issuesOf (ins.docs [p.report.path]) } := by
  unfold attachDocs
  cases ins.docs [p.report.path] <;> simp [Report.record, Except.toOption]

theorem warnings_attachDocs (p : Progress) :
    warnings (ins.attachDocs p).diagnostics =
      warnings p.diagnostics + (issuesOf (ins.docs [p.report.path])).length := by
  unfold attachDocs
  cases ins.docs [p.report.path] <;> simp

/-- An inspection of a text, for every text and every answer of the documentation extractor:
the tree is there exactly when the text was accepted; the primary export exactly when, in
addition, a statement claims it, and it stays there when its binding is not found; the binding's
kind and capabilities come together, exactly when the binding is found; the documentation data
is the extractor's answer for the file. The issues are the failure of the first failing stage of
the chain, if any, then the extractor's failure, if any, so the report is complete exactly when
all four findings are there. Every issue comes with a warning, and one more warning says that
several statements claim the primary export. -/
theorem inspectText_report (ins : Inspector) (path text : String) :
    let r := (ins.inspectText path text).report
    r.tree = (SyntaxTree.build text).toOption.map TreeSummary.of ∧
    (∀ d, r.export? = some d ↔ ∃ t, SyntaxTree.build text = .ok t ∧
      primaryExport (describeExports t.source t.statements ins.exportSlot) = .ok d) ∧
    r.bindingKind.isSome = r.capabilities.isSome ∧
    (∀ k cs, r.bindingKind = some k ∧ r.capabilities = some cs ↔
      ∃ t d b, SyntaxTree.build text = .ok t ∧
        primaryExport (describeExports t.source t.statements ins.exportSlot) = .ok d ∧
        resolveBinding t.source t.statements d = .ok b ∧
        k = b.kind ∧ cs = b.extraction.capabilities) ∧
    r.docComments = (ins.docs [path]).toOption ∧
    r.issues = issuesOf (ins.stages text) ++ issuesOf (ins.docs [path]) ∧
    (issuesOf (ins.stages text)).map Issue.stage ⊆ [.parse, .exports, .binding] ∧
    (r.isComplete ↔
      r.tree.isSome ∧ r.export?.isSome ∧ r.capabilities.isSome ∧ r.docComments.isSome) ∧
    warnings (ins.inspectText path text).diagnostics =
      r.issues.length + if 2 ≤ ins.primaryCount text then 1 else 0 := by
  intro r
  have hr : r = _ := attachDocs_report ins _
  rw [runPipeline_report] at hr
  simp only [Report.empty, Option.or_none] at hr
  refine ⟨?tree, ?primary, ?bound, ?binding, ?docs, ?issues, ?stage, ?complete, ?warn⟩
  case tree => rw [hr]
  case primary =>
    intro d
    rw [hr]
    cases h : SyntaxTree.build text with
    | error e => simp [primaryOf, h]
    | ok t =>
      cases hp : primaryExport (describeExports t.source t.statements ins.exportSlot) <;>
        simp [primaryOf, h, hp, Except.toOption]
  case bound => rw [hr]; simp
  case binding =>
    intro k cs
    rw [hr]
    cases hs : ins.stages text with
    | error e =>
      simp only [Except.toOption, Option.map_none, reduceCtorEq, false_and, false_iff]
      rintro ⟨t, d, b, h, hp, hb, -⟩
      simp [(stages_eq_ok_iff ins text).2 ⟨h, hp, hb⟩] at hs
    | ok x =>
      obtain ⟨t, d, b⟩ := x
      obtain ⟨h, hp, hb⟩ := (stages_eq_ok_iff ins text).1 hs
      simp only [Except.toOption, Option.map_some, Option.some.injEq]
      constructor
      · rintro ⟨rfl, rfl⟩
        exact ⟨t, d, b, h, hp, hb, rfl, rfl⟩
      · rintro ⟨t', d', b', h', hp', hb', rfl, rfl⟩
        obtain ⟨rfl, rfl, rfl⟩ : t' = t ∧ d' = d ∧ b' = b := by
          simp_all
        exact ⟨rfl, rfl⟩
  case docs => rw [hr]
  case issues => rw [hr]
  case stage =>
    cases hs : ins.stages text with
    | error e =>
      have he := stages_error_stage ins text hs
      simp only [issuesOf_error, List.map_cons, List.map_nil, List.cons_subset, Issue.of]
      refine ⟨?_, List.nil_subset _⟩
      rcases he with he | he | he <;> simp [he]
    | ok x => simp
  case complete =>
    rw [hr]
    cases hs : ins.stages text with
    | error e =>
      cases hd : ins.docs [path] <;> simp [Report.isComplete, Except.toOption]
    | ok x =>
      obtain ⟨t, d, b⟩ := x
      obtain ⟨h, hp, hb⟩ := (stages_eq_ok_iff ins text).1 hs
      cases hd : ins.docs [path] <;>
        simp [Report.isComplete, Except.toOption, primaryOf, h, hp]
  case warn =>
    have hpath : (ins.runPipeline text ⟨Report.empty path, []⟩).report.path = path := by
      rw [runPipeline_report]; rfl
    have hw := warnings_attachDocs ins (ins.runPipeline text ⟨Report.empty path, []⟩)
    rw [hpath, warnings_runPipeline] at hw
    rw [inspectText, hw, hr]
    simp only [List.length_append]
    omega

end Inspector

/-! ## The documentation command -/

namespace Docs

open PluginLens.Command

/-- For every runner, the command extractor succeeds exactly when its program, run with the
configured arguments and then the paths, starts, exits with status 0 and prints one JSON
value, which is the documentation. It fails in exactly three ways, each a documentation failure
naming the program: it could not be started, with the system's reason; it ended otherwise than
with status 0, with that ending and the trimmed error output; or what it printed is no JSON. -/
theorem commandExtractor_run (run : String → List String → Except IoError Outcome)
    (program : String) (args paths : List String) :
    (∀ v, commandExtractor run program args paths = .ok v ↔
      ∃ o, run program (args ++ paths) = .ok o ∧ o.ending = .exited 0 ∧
        Json.parse (lossyText o.stdout) = .ok v) ∧
    (∀ e, commandExtractor run program args paths = .error e ↔
      (∃ err, run program (args ++ paths) = .error err ∧
        InspectError.docs (program ++ " could not be started: " ++ err.message) = e) ∨
      (∃ o, run program (args ++ paths) = .ok o ∧ o.ending ≠ .exited 0 ∧
        InspectError.docs (program ++ " failed with exit code " ++ exitCodeText o.ending ++ ": " ++
          trimWhite (lossyText o.stderr)) = e) ∨
      (∃ o pe, run program (args ++ paths) = .ok o ∧ o.ending = .exited 0 ∧
        Json.parse (lossyText o.stdout) = .error pe ∧
        InspectError.docs (program ++ " produced invalid JSON: " ++ pe.message) = e)) := by
  have hspec : CommandSpec.build program args paths = ⟨program, args ++ paths⟩ := rfl
  refine ⟨fun v => ?_, fun e => ?_⟩ <;>
    cases hrun : run program (args ++ paths) with
    | error err => simp [commandExtractor, hspec, hrun]
    | ok o =>
      by_cases hexit : o.ending = .exited 0 <;>
        cases hparse : Json.parse (lossyText o.stdout) <;>
        simp [commandExtractor, hspec, hrun, Outcome.succeeded, hexit, hparse]

end Docs

end PluginLens
