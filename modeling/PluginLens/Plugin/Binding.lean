import PluginLens.Plugin.Capability

/-!
# Bindings

The binding of a plugin is the declaration behind its primary export's name. Two strategies
look for it among the top-level statements: function declarations (with an anonymous
`export default function` matched by the very statement that exported it) and variable
declarators. Each strategy merges what all matching declarations expose and reports the
span of the first. Strategies run in order; the first binding with capabilities wins, else
the first binding found.
-/

namespace PluginLens

open PluginLens.Text PluginLens.Syntax

/-- The kind of declaration a binding is. -/
inductive BindingKind where
  | function
  | variable
  deriving DecidableEq, Inhabited, Repr

def BindingKind.name : BindingKind → String
  | .function => "function"
  | .variable => "variable"

def BindingKind.label : BindingKind → String
  | .function => "Function"
  | .variable => "Variable"

/-- The declaration a primary export resolved to, with what it exposes. -/
structure ResolvedBinding where
  name : Option String
  kind : BindingKind
  /-- The span of the first matching declaration. -/
  span : Span
  extraction : Extraction
  deriving DecidableEq, Inhabited, Repr

def ResolvedBinding.hasCapabilities (b : ResolvedBinding) : Bool :=
  !b.extraction.capabilities.isEmpty

/-- Merges a finding into the first binding found. -/
def mergeFound (found : Option ResolvedBinding) (fresh : ResolvedBinding) : Option ResolvedBinding :=
  match found with
  | some b => some { b with extraction := b.extraction.merge fresh.extraction }
  | none => some fresh

/-- Whether a declared function matches the primary export: by name, or, for an anonymous
default export, by being the statement that exported it. -/
def functionMatches (src : Source) (stmt f : Node) (primary : ExportDescriptor) : Bool :=
  match f.declaredName? src, primary.exportedName with
  | some n, some wanted => n == wanted
  | none, none =>
    primary.form == .defaultExport && stmt.isDefaultExport && Span.ofNode stmt == primary.span
  | _, _ => false

/-- The function strategy: top-level function declarations and default-exported functions. -/
def resolveFunction (src : Source) (statements : List Node) (primary : ExportDescriptor) :
    Option ResolvedBinding :=
  statements.foldl (fun found stmt =>
    match stmt.declaredFunction? with
    | some f =>
      if functionMatches src stmt f primary then
        mergeFound found { name := primary.exportedName, kind := .function
                           span := Span.ofNode f, extraction := extractFromFunction src f }
      else found
    | none => found) none

/-- The variable strategy: declarators of top-level `var`, `let` and `const` statements whose
name is the exported name. -/
def resolveVariable (src : Source) (statements : List Node) (primary : ExportDescriptor) :
    Option ResolvedBinding :=
  match primary.exportedName with
  | none => none
  | some wanted =>
    let matching := (statements.flatMap Node.declaratorsOf).filter fun d =>
      match d.child? "name" with
      | some id => id.kind == "identifier" && src.slice id.start id.stop == wanted
      | none => false
    matching.foldl (fun found d =>
      mergeFound found { name := some wanted, kind := .variable, span := Span.ofNode d
                         extraction := extractFromInitializer src (d.child? "value") }) none

/-- One way of finding a binding among the top-level statements: the kind of declaration it
looks for, and the search, which gives `none` when no declaration matches. -/
structure BindingStrategy where
  kind : BindingKind
  resolve : Source → List Node → ExportDescriptor → Option ResolvedBinding

def functionStrategy : BindingStrategy := ⟨.function, resolveFunction⟩

def variableStrategy : BindingStrategy := ⟨.variable, resolveVariable⟩

def defaultStrategies : List BindingStrategy := [functionStrategy, variableStrategy]

/-- Runs strategies in order: the first binding with capabilities wins; otherwise the first
binding found, without capabilities; with none found, the export's name is unbound. -/
def resolveBindingWith (strategies : List BindingStrategy) (src : Source)
    (statements : List Node) (primary : ExportDescriptor) : Except InspectError ResolvedBinding :=
  let found := strategies.filterMap fun s => s.resolve src statements primary
  match found.find? (·.hasCapabilities) with
  | some b => .ok b
  | none =>
    match found.head? with
    | some b => .ok b
    | none => .error (.noBinding primary.exportedName)

def resolveBinding (src : Source) (statements : List Node) (primary : ExportDescriptor) :
    Except InspectError ResolvedBinding :=
  resolveBindingWith defaultStrategies src statements primary

end PluginLens
