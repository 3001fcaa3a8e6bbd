import PluginLens.Plugin.Export

/-!
# Capabilities

The capabilities of a plugin are the named entries of the object literal that its
declaration returns or holds. Each has a name (a key's static name), the kind of its value
and the value's text. Spread entries and computed keys have no static name: they are
recorded as skipped, with their span.
-/

namespace PluginLens

open PluginLens.Text PluginLens.Syntax

/-- A coarse classification of a capability's value. -/
inductive ValueKind where
  | function
  | arrow
  | literal
  | other
  deriving DecidableEq, Inhabited, Repr

namespace ValueKind

/-- The kind of a value, looking through parentheses. -/
def ofNode (n : Node) : ValueKind :=
  let e := n.unparen
  if e.kind == "arrow_function" then .arrow
  else if literalKinds.contains e.kind then .literal
  else if e.isFunction then .function
  else .other

/-- The name a value kind is reported under. -/
def name : ValueKind → String
  | .function => "function"
  | .arrow => "arrow"
  | .literal => "literal"
  | .other => "other"

end ValueKind

/-- A named entry of the plugin object. -/
structure Capability where
  name : String
  valueKind : ValueKind
  /-- The exact text of the value. -/
  sourceText : String
  span : Span
  deriving DecidableEq, Inhabited, Repr

abbrev CapabilitySet := List Capability

def CapabilitySet.get? (cs : CapabilitySet) (name : String) : Option Capability :=
  cs.find? (·.name == name)

/-- Why an entry was skipped. -/
inductive SkipReason where
  | computedKey
  | spread
  deriving DecidableEq, Inhabited, Repr

def SkipReason.name : SkipReason → String
  | .computedKey => "computed_key"
  | .spread => "spread"

def SkipReason.label : SkipReason → String
  | .computedKey => "ComputedKey"
  | .spread => "Spread"

/-- An entry without a static name. -/
structure SkippedProperty where
  reason : SkipReason
  span : Span
  deriving DecidableEq, Inhabited, Repr

/-- What walking object literals found. -/
structure Extraction where
  capabilities : CapabilitySet := []
  skipped : List SkippedProperty := []
  deriving DecidableEq, Inhabited, Repr

def Extraction.merge (a b : Extraction) : Extraction :=
  ⟨a.capabilities ++ b.capabilities, a.skipped ++ b.skipped⟩

def Capability.over (src : Source) (name : String) (kind : ValueKind) (span : Span) : Capability :=
  { name, valueKind := kind, sourceText := span.slice src, span }

/-- What one entry of an object literal contributes. A pair names its value; a method spans
its parameters and body; a shorthand entry is its own value; a spread, and a key with no
static name, is skipped. -/
def entryFinding (src : Source) (prop : Node) : Extraction :=
  let named (key : Node) (kind : ValueKind) (span : Span) : Extraction :=
    match keyName src key with
    | some n => { capabilities := [Capability.over src n kind span] }
    | none => { skipped := [⟨.computedKey, Span.ofNode prop⟩] }
  match prop.kind with
  | "pair" =>
    match prop.child? "key", prop.child? "value" with
    | some k, some v => named k (ValueKind.ofNode v) (Span.ofNode v.unparen)
    | _, _ => {}
  | "method_definition" =>
    match prop.child? "name" with
    | some k =>
      let first := ((prop.child? "parameters").map (·.start)).getD prop.start
      let last := ((prop.child? "body").map (·.stop)).getD prop.stop
      named k .function ⟨first, last⟩
    | none => {}
  | "shorthand_property_identifier" =>
    { capabilities := [Capability.over src (src.slice prop.start prop.stop) .other
        (Span.ofNode prop)] }
  | "spread_element" => { skipped := [⟨.spread, Span.ofNode prop⟩] }
  | _ => {}

def objectFindings (src : Source) (obj : Node) : Extraction :=
  (obj.namedChildren.filter (·.kind != "comment")).foldl
    (fun acc p => acc.merge (entryFinding src p)) {}

/-- The capabilities of every object literal that the function's own `return` statements give
back. -/
def extractFromFunction (src : Source) (f : Node) : Extraction :=
  f.returnsOf.foldl (fun acc r =>
    match r.returnArgument?.bind Node.objectLiteral? with
    | some o => acc.merge (objectFindings src o)
    | none => acc) {}

/-- The capabilities of a variable's initial value, when it is an object literal. -/
def extractFromInitializer (src : Source) (init : Option Node) : Extraction :=
  match init.bind Node.objectLiteral? with
  | some o => objectFindings src o
  | none => {}

end PluginLens
