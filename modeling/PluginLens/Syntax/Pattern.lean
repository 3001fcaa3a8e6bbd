import PluginLens.Syntax.Node

/-!
# Expressions read again as patterns

An object or array literal on the left of `=`, or on the left of a loop head, is a pattern:
the same text, read with the pattern names of its parts. `Node.asPattern` renames the parts
accordingly and leaves every span alone.
-/

namespace PluginLens.Syntax

namespace Node

def renamed (n : Node) (kind : String) : Node :=
  match n with
  | .mk _ named missing field start stop children => .mk kind named missing field start stop children

def withChildren (n : Node) (children : List Node) : Node :=
  match n with
  | .mk kind named missing field start stop _ => .mk kind named missing field start stop children

mutual
/-- The pattern reading of a node in a pattern position: objects, arrays and their parts take
their pattern names; other nodes stay as they are. -/
def asPattern : Node → Node
  | n@(.mk "object" _ _ _ _ _ children) =>
    (n.renamed "object_pattern").withChildren (objectMembers children)
  | n@(.mk "array" _ _ _ _ _ children) =>
    (n.renamed "array_pattern").withChildren (arrayElements children)
  | n => n

/-- Members of an object pattern. -/
def objectMembers : List Node → List Node
  | [] => []
  | c :: rest =>
    let c' := match c with
      | .mk "pair" named missing field start stop kids =>
        .mk "pair_pattern" named missing field start stop (pairParts kids)
      | .mk "shorthand_property_identifier" named missing field start stop kids =>
        .mk "shorthand_property_identifier_pattern" named missing field start stop kids
      | .mk "spread_element" named missing field start stop kids =>
        .mk "rest_pattern" named missing field start stop (restParts kids)
      | other => other
    c' :: objectMembers rest

/-- Parts of a pair pattern: the value is a pattern, possibly with a default. -/
def pairParts : List Node → List Node
  | [] => []
  | c :: rest =>
    (if c.field == some "value" then element c else c) :: pairParts rest

def restParts : List Node → List Node
  | [] => []
  | c :: rest => (if c.named then asPattern c else c) :: restParts rest

def arrayElements : List Node → List Node
  | [] => []
  | c :: rest => (if c.named then element c else c) :: arrayElements rest

/-- An element of a pattern: an assignment is a pattern with a default value. -/
def element : Node → Node
  | .mk "assignment_expression" named missing field start stop kids =>
    .mk "assignment_pattern" named missing field start stop (defaultParts kids)
  | .mk "spread_element" named missing field start stop kids =>
    .mk "rest_pattern" named missing field start stop (restParts kids)
  | n => asPattern n

/-- Parts of a pattern with a default: the target is a pattern. -/
def defaultParts : List Node → List Node
  | [] => []
  | c :: rest => (if c.field == some "left" then asPattern c else c) :: defaultParts rest
end

mutual
/-- Whether a node read as an expression can stand where a pattern is expected: a name, a
member access, a subscript, or an object or array whose parts can all stand as patterns. -/
def isPatternShaped : Node → Bool
  | .mk "object" _ _ _ _ _ children => membersShaped children
  | .mk "array" _ _ _ _ _ children => elementsShaped children
  | n => ["identifier", "undefined", "member_expression", "subscript_expression",
      "object_pattern", "array_pattern"].contains n.kind

/-- Whether the members of an object can all stand as members of an object pattern: pairs
whose values are elements, names, names with a default, and a rest. -/
def membersShaped : List Node → Bool
  | [] => true
  | c :: rest =>
    let ok := match c with
      | .mk "pair" _ _ _ _ _ kids => valueShaped kids
      | .mk "spread_element" _ _ _ _ _ kids => restShaped kids
      | .mk kind named _ _ _ _ _ =>
        !named || kind == "shorthand_property_identifier" || kind == "object_assignment_pattern"
    ok && membersShaped rest

def valueShaped : List Node → Bool
  | [] => true
  | c :: rest => (c.field != some "value" || elementShaped c) && valueShaped rest

def elementsShaped : List Node → Bool
  | [] => true
  | c :: rest => (!c.named || elementShaped c) && elementsShaped rest

/-- Whether a node can stand as an element of a pattern: a pattern, a pattern with a default
value, or a rest. -/
def elementShaped : Node → Bool
  | .mk "assignment_expression" _ _ _ _ _ kids => leftShaped kids
  | .mk "spread_element" _ _ _ _ _ kids => restShaped kids
  | n => isPatternShaped n

def leftShaped : List Node → Bool
  | [] => true
  | c :: rest => (c.field != some "left" || isPatternShaped c) && leftShaped rest

/-- Whether the argument among the parts of a spread element can follow `...` in a pattern. -/
def restShaped : List Node → Bool
  | [] => true
  | c :: rest => (!c.named || isPatternShaped c) && restShaped rest
end

mutual
/-- Whether an object or array literal holds, at any depth of its parts that become pattern
parts, a member `name = value`: a literal that only a pattern reading makes valid. -/
def needsPattern : Node → Bool
  | .mk "object" _ _ _ _ _ children => partsNeedPattern children
  | .mk "array" _ _ _ _ _ children => partsNeedPattern children
  | _ => false

/-- Whether one of the parts of an object or array literal needs a pattern reading. -/
def partsNeedPattern : List Node → Bool
  | [] => false
  | c :: rest =>
    let own := match c with
      | .mk "object_assignment_pattern" _ _ _ _ _ _ => true
      | .mk "pair" _ _ _ _ _ kids => partsNeedPattern kids
      | .mk "spread_element" _ _ _ _ _ kids => partsNeedPattern kids
      | n => needsPattern n
    own || partsNeedPattern rest
end

end Node

end PluginLens.Syntax
