import PluginLens.Docs.Block
import PluginLens.Docs.Target
import PluginLens.Text.PathText
import PluginLens.Json.Value
import PluginLens.Syntax.Dialect
import PluginLens.Inspection.Error

/-!
# Doclets

A doclet is what one documentation block says about the place it documents, as the
template data of documentation generators: a name, a kind, a description, parameters,
results, examples and further tags, and where the documented code is. The target found
after the block supplies the name and kind; tags may override both. A block that neither
follows code nor names itself with a tag documents nothing and gives no doclet.

`Doclet.toJson` writes the data with the key names such generators read, each object's
keys in increasing order.
-/

namespace PluginLens.Docs

open PluginLens.Text PluginLens.Syntax

/-- How a block marks what it documents as deprecated: bare, or with a note. -/
inductive Deprecation where
  | flag
  | note (text : String)
  deriving DecidableEq, Inhabited, Repr

/-- What one documentation block documents. -/
structure Doclet where
  name : String
  kind : String
  description : String
  params : List ParamDoc
  returns : List TypedDoc
  examples : List String
  customTags : List (String × String)
  type? : Option TypeNames
  async : Bool
  deprecated? : Option Deprecation
  since? : Option String
  version? : Option String
  author? : Option String
  exceptions? : Option (List TypedDoc)
  properties? : Option (List ParamDoc)
  line : Nat
  column : Nat
  fileName : String
  directory : String
  paramNames? : Option (List String)
  deriving Inhabited, Repr

/-- A doclet while its block's tags are read; name and kind may still be missing. -/
structure Draft where
  name? : Option String
  kind? : Option String
  description : String
  params : List ParamDoc := []
  returns : List TypedDoc := []
  examples : List String := []
  customTags : List (String × String) := []
  type? : Option TypeNames := none
  async : Bool := false
  deprecated? : Option Deprecation := none
  since? : Option String := none
  version? : Option String := none
  author? : Option String := none
  exceptions? : Option (List TypedDoc) := none
  properties? : Option (List ParamDoc) := none
  deriving Inhabited

def appendTo {α : Type} (xs? : Option (List α)) (x : α) : Option (List α) :=
  some (xs?.getD [] ++ [x])

/-- Reads one tag into a draft. Unknown titles become custom tags. -/
def Draft.addTag (d : Draft) (title value : String) : Draft :=
  match title with
  | "param" | "arg" | "argument" => { d with params := d.params ++ [ParamDoc.parse value] }
  | "returns" | "return" => { d with returns := d.returns ++ [TypedDoc.parse value] }
  | "example" => { d with examples := d.examples ++ [value] }
  | "description" | "desc" => { d with description := value }
  | "name" => { d with name? := firstWord value }
  | "kind" => { d with kind? := firstWord value }
  | "function" | "func" | "method" =>
    { d with kind? := some "function", name? := (firstWord value).or d.name? }
  | "module" => { d with kind? := some "module", name? := (firstWord value).or d.name? }
  | "file" | "fileoverview" | "overview" =>
    { d with kind? := some "file", description := if value.isEmpty then d.description else value }
  | "typedef" =>
    let (type?, rest) := splitType value
    { d with kind? := some "typedef", name? := (firstWord rest).or d.name?,
             type? := type?.or d.type? }
  | "type" => { d with type? := (splitType value).1.or d.type? }
  | "constant" | "const" => { d with kind? := some "constant" }
  | "class" | "constructor" => { d with kind? := some "class" }
  | "async" => { d with async := true }
  | "deprecated" =>
    { d with deprecated? := some (if value.isEmpty then .flag else .note value) }
  | "since" => { d with since? := some value }
  | "version" => { d with version? := some value }
  | "author" => { d with author? := some value }
  | "throws" | "exception" => { d with exceptions? := appendTo d.exceptions? (TypedDoc.parse value) }
  | "property" | "prop" => { d with properties? := appendTo d.properties? (ParamDoc.parse value) }
  | _ => { d with customTags := d.customTags ++ [(title, value)] }

def fileParts (path : String) : String × String :=
  ((PathText.fileName? path).getD "", (PathText.parent? path).getD "")

/-- The doclet of a block ending at `blockEnd` of the text at `path`, documenting `target`
when one follows it. -/
def Doclet.ofBlock (path : String) (src : Source) (block : DocBlock) (target : Option DocTarget)
    (blockEnd : Nat) : Option Doclet :=
  let start : Draft :=
    { name? := target.map (·.name), kind? := target.map (·.kind.name),
      description := block.description }
  let d := block.tags.foldl (fun (d : Draft) (t, v) => d.addTag t v) start
  match d.name? with
  | none => none
  | some name =>
    let (line, column) := lineCol src ((target.map (·.start)).getD blockEnd)
    let (fileName, directory) := fileParts path
    some { name, kind := d.kind?.getD "member", description := d.description,
           params := d.params, returns := d.returns, examples := d.examples,
           customTags := d.customTags, type? := d.type?,
           async := d.async || (target.map (·.isAsync)).getD false,
           deprecated? := d.deprecated?, since? := d.since?, version? := d.version?,
           author? := d.author?, exceptions? := d.exceptions?, properties? := d.properties?,
           line, column, fileName, directory, paramNames? := target.map (·.params) }

/-- The doclet of a comment of the text at `path` whose targets are `ts`: a documentation
block gives one when it documents something. -/
def Doclet.ofComment (path : String) (src : Source) (ts : List DocTarget) (c : Comment) :
    Option Doclet :=
  if c.isDocBlock then
    Doclet.ofBlock path src (DocBlock.parse c.text) (targetAfter src ts c.stop) c.stop
  else none

/-- The doclets of a read text, one per documentation block that documents something, in the
order of the blocks. -/
def docletsOfTree (path : String) (tree : SyntaxTree) : List Doclet :=
  tree.comments.filterMap (Doclet.ofComment path tree.source (targets tree.source tree.root))

/-- The doclets of a text. A text that cannot be read fails with its syntax error, prefixed by
the path. -/
def docletsOf (path : String) (text : String) : Except InspectError (List Doclet) :=
  match SyntaxTree.build text with
  | .error e =>
    let src := Source.ofString text
    .error (.docs (path ++ ": " ++ (InspectError.atOffset e.message e.offset src).message))
  | .ok tree => .ok (docletsOfTree path tree)

def typeJson (names : TypeNames) : Json := Json.sorted [("names", Json.strs names)]

def optMember (key : String) : Option Json → List (String × Json)
  | some v => [(key, v)]
  | none => []

/-- A parameter as data. -/
def ParamDoc.toJson (p : ParamDoc) : Json :=
  Json.sorted (optMember "type" (p.type?.map typeJson) ++
    (if p.optional then [("optional", .bool true)] else []) ++
    optMember "defaultvalue" (p.default?.map .str) ++
    optMember "description" (p.description?.map .str) ++
    [("name", .str p.name)])

def TypedDoc.toJson (t : TypedDoc) : Json :=
  Json.sorted (optMember "type" (t.type?.map typeJson) ++ optMember "description" (t.description?.map .str))

def listMember (key : String) (items : List Json) : List (String × Json) :=
  if items.isEmpty then [] else [(key, .arr items)]

/-- A doclet as template data. -/
def Doclet.toJson (d : Doclet) : Json :=
  let code := [("name", Json.str d.name)] ++ optMember "paramnames" (d.paramNames?.map Json.strs)
  let location : Json := Json.sorted [("lineno", Json.nat d.line), ("columnno", Json.nat d.column),
    ("filename", .str d.fileName), ("path", .str d.directory), ("code", Json.sorted code)]
  Json.sorted ([("id", .str d.name), ("longname", .str d.name), ("name", .str d.name),
      ("kind", .str d.kind)] ++
    (if d.description.isEmpty then [] else [("description", .str d.description)]) ++
    listMember "params" (d.params.map ParamDoc.toJson) ++
    listMember "returns" (d.returns.map TypedDoc.toJson) ++
    listMember "examples" (d.examples.map .str) ++
    listMember "customTags" (d.customTags.map fun (t, v) => Json.sorted [("tag", .str t), ("value", .str v)]) ++
    optMember "type" (d.type?.map typeJson) ++
    (if d.async then [("async", .bool true)] else []) ++
    optMember "deprecated" (d.deprecated?.map fun
      | .flag => .bool true
      | .note t => .str t) ++
    optMember "since" (d.since?.map .str) ++
    optMember "version" (d.version?.map .str) ++
    optMember "author" (d.author?.map .str) ++
    optMember "exceptions" (d.exceptions?.map fun xs => .arr (xs.map TypedDoc.toJson)) ++
    optMember "properties" (d.properties?.map fun xs => .arr (xs.map ParamDoc.toJson)) ++
    [("meta", location)])

/-- Doclets of several texts as one list, each numbered by its place in it. -/
def numbered (ds : List Doclet) : Json :=
  .arr (ds.zipIdx.map fun (d, i) =>
    match d.toJson with
    | .obj ms => Json.sorted (ms ++ [("order", Json.nat i)])
    | j => j)

end PluginLens.Docs
