import PluginLens.Syntax.Value

/-!
# Member paths

A member path such as `module.exports` names the slot a plugin assigns its export to. It is
read from configuration text (`MemberPath.parse?`) or from the left side of an assignment
(`MemberPath.ofNode?`); either way it has at most `maxDepth` segments.
-/

namespace PluginLens

open PluginLens.Text PluginLens.Syntax

def MemberPath.maxDepth : Nat := 32

/-- A dotted path of member names. -/
structure MemberPath where
  segments : List String
  deriving DecidableEq, Inhabited, Repr

namespace MemberPath

def default : MemberPath := ⟨["module", "exports"]⟩

def render (p : MemberPath) : String := ".".intercalate p.segments

/-- A path is displayed as it is written. -/
instance : ToString MemberPath := ⟨render⟩

/-- Reads a dotted path: segments split at dots and trimmed; an empty segment or more than
`maxDepth` segments is no path. -/
def parse? (dotted : String) : Option MemberPath :=
  let segments := (dotted.toList.splitOn '.').map fun cs => trimWhite (String.ofList cs)
  if segments.any (·.isEmpty) || segments.length > maxDepth then none else some ⟨segments⟩

/-- The path an expression names, looking through parentheses: a name or `this`, followed by
plain member accesses and subscripts with string indexes; `none` for anything else, for
optional chains and for paths deeper than `maxDepth`. -/
def ofNode? (src : Source) (n : Node) : Option MemberPath :=
  go (maxDepth + 1) n.unparen []
where
  go : Nat → Node → List String → Option MemberPath
    | 0, _, _ => none
    | fuel + 1, cur, acc =>
      if acc.length ≥ maxDepth then none
      else match cur.kind with
        | "identifier" | "this" => some ⟨src.slice cur.start cur.stop :: acc⟩
        | "member_expression" =>
          if (cur.child? "optional_chain").isSome then none
          else match cur.child? "property", cur.child? "object" with
            | some p, some o =>
              if p.kind != "property_identifier" then none
              else go fuel o.unparen (src.slice p.start p.stop :: acc)
            | _, _ => none
        | "subscript_expression" =>
          if (cur.child? "optional_chain").isSome then none
          else match cur.child? "index", cur.child? "object" with
            | some i, some o =>
              if i.unparen.kind != "string" then none
              else go fuel o.unparen (stringValue src i.unparen :: acc)
            | _, _ => none
        | _ => none

end MemberPath

end PluginLens
