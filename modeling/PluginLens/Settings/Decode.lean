import PluginLens.Settings.Basic
import PluginLens.Toml.Reader
import PluginLens.Text.Quoted

/-!
# Settings from TOML

A configuration document is read as TOML and then decoded into `Settings`: the keys of each
table are taken in document order, known keys must hold values of the expected type, and
unknown keys are ignored. A value of the wrong type is reported at the value, naming what
was found (`integer `1``, `string "js"`, `sequence`, `map`) and what was expected.

Failures are a chain of messages, outermost first: "Invalid scout configuration" over the
TOML complaint, or a single message about invalid settings.
-/

namespace PluginLens

open PluginLens.Toml

/-- What a value is, as a decoding message names it. -/
def Toml.Value.unexpected : Value → String
  | .str s .. => "string " ++ debugQuoted s
  | .int i .. => "integer `" ++ toString i ++ "`"
  | .float f .. => "floating point `" ++ floatText f ++ "`"
  | .bool b .. => "boolean `" ++ toString b ++ "`"
  | .datetime .. => "map"
  | .array .. => "sequence"
  | .table .. => "map"

def Toml.Value.complaint (v : Value) (message : String) : TomlError :=
  { message, start := v.start, stop := v.stop }

def Toml.Value.wrongType {α : Type} (v : Value) (expected : String) : Except TomlError α :=
  .error (v.complaint ("invalid type: " ++ v.unexpected ++ ", expected " ++ expected))

namespace Toml.Value

/-- A string. -/
def asString (v : Value) : Except TomlError String :=
  match v with
  | .str s .. => .ok s
  | _ => v.wrongType "a string"

/-- A count that fits in an unsigned machine word. -/
def asCount (v : Value) : Except TomlError Nat :=
  match v with
  | .int i .. =>
    if i < 0 then .error (v.complaint ("invalid value: integer `" ++ toString i ++ "`, expected usize"))
    else .ok i.toNat
  | _ => v.wrongType "usize"

/-- A list of strings. -/
def asStrings (v : Value) : Except TomlError (List String) :=
  match v with
  | .array items .. => items.mapM asString
  | _ => v.wrongType "a sequence"

/-- The value of a mode given as a one-entry table `{ mode = {} }`: an empty table or an
empty array. -/
def variantUnit (v : Value) : Except TomlError Unit :=
  match v with
  | .table [] .. | .array [] .. => .ok ()
  | .table .. => .error (v.complaint "expected empty table")
  | .array .. => .error (v.complaint "expected empty array")
  | _ => .error (v.complaint ("expected table, found " ++ v.typeName))

/-- A documentation mode, named by a string or by the one key of a table. -/
def asDocsMode (v : Value) : Except TomlError DocsMode :=
  let unknown (name : String) : Except TomlError DocsMode :=
    .error (v.complaint ("unknown variant `" ++ name ++ "`, expected one of `builtin`, `command`, `none`"))
  match v with
  | .str s .. =>
    match DocsMode.ofName? s with
    | some m => .ok m
    | none => unknown s
  | .table [] .. => .error (v.complaint "wanted exactly 1 element, found 0 elements")
  | .table [(k, inner)] .. =>
    match DocsMode.ofName? k with
    | some m => do
      variantUnit inner
      pure m
    | none => unknown k
  | .table .. => .error (v.complaint "wanted exactly 1 element, more than 1 element")
  | _ => .error (v.complaint "wanted string or table")

/-- The entries of a table standing for the structure `name`; a date-time stands for a
table whose only key no structure knows. -/
def asTable (v : Value) (name : String) : Except TomlError Entries :=
  match v with
  | .table es .. => .ok es
  | .datetime .. => .ok []
  | _ => v.wrongType ("struct " ++ name)

end Toml.Value

/-- Scan settings from the entries of their table, over `base`. -/
def ScanSettings.decode (base : ScanSettings) (es : Entries) : Except TomlError ScanSettings :=
  es.foldlM (fun s (k, v) =>
    match k with
    | "extensions" => return { s with extensions := ← v.asStrings }
    | "skip_dirs" => return { s with skipDirs := ← v.asStrings }
    | _ => pure s) base

/-- Scan settings from the items of an array, which give the fields in order: the
extensions, then the skipped directories. A missing item leaves its field at the default, and
items past the last field are ignored. -/
def ScanSettings.decodeItems (items : List Value) : Except TomlError ScanSettings := do
  let d := ScanSettings.default
  let extensions ← match items[0]? with
    | some v => v.asStrings
    | none => pure d.extensions
  let skipDirs ← match items[1]? with
    | some v => v.asStrings
    | none => pure d.skipDirs
  return { extensions, skipDirs }

/-- Documentation settings from the entries of their table, over `base`. -/
def DocsSettings.decode (base : DocsSettings) (es : Entries) : Except TomlError DocsSettings :=
  es.foldlM (fun s (k, v) =>
    match k with
    | "extractor" => return { s with extractor := ← v.asDocsMode }
    | "program" => return { s with program := ← v.asString }
    | "args" => return { s with args := ← v.asStrings }
    | _ => pure s) base

/-- Documentation settings from the items of an array, which give the fields in order: the
mode, the program, then its arguments. A missing item leaves its field at the default, and
items past the last field are ignored. -/
def DocsSettings.decodeItems (items : List Value) : Except TomlError DocsSettings := do
  let d := DocsSettings.default
  let extractor ← match items[0]? with
    | some v => v.asDocsMode
    | none => pure d.extractor
  let program ← match items[1]? with
    | some v => v.asString
    | none => pure d.program
  let args ← match items[2]? with
    | some v => v.asStrings
    | none => pure d.args
  return { extractor, program, args }

/-- Settings from the entries of a document's root table, over the defaults. A structured
setting is a table of its fields or an array of them in order. -/
def Settings.decode (es : Entries) : Except TomlError Settings :=
  es.foldlM (fun s (k, v) =>
    match k with
    | "export_slot" => return { s with exportSlot := ← v.asString }
    | "log_level" => return { s with logLevel := ← v.asString }
    | "threads" => return { s with threads := some (← v.asCount) }
    | "scan" => match v with
      | .array items .. => return { s with scan := ← ScanSettings.decodeItems items }
      | _ => return { s with scan := ← ScanSettings.decode s.scan (← v.asTable "ScanConfig") }
    | "docs" => match v with
      | .array items .. => return { s with docs := ← DocsSettings.decodeItems items }
      | _ => return { s with docs := ← DocsSettings.decode s.docs (← v.asTable "DocsConfig") }
    | _ => pure s) Settings.default

/-- Why a configuration text gives no settings. -/
inductive SettingsError where
  | malformed (error : TomlError) (text : String)
  | invalid (problem : SettingsProblem)
  deriving Inhabited

def SettingsError.chain : SettingsError → List String
  | .malformed e text => ["Invalid scout configuration", e.render text]
  | .invalid p => [p.message]

/-- Settings from a configuration text: read, decoded, then checked. -/
def Settings.ofToml (text : String) : Except SettingsError Settings := do
  let es ← (Toml.parse text).mapError (SettingsError.malformed · text)
  let s ← (Settings.decode es).mapError (SettingsError.malformed · text)
  (s.validate).mapError SettingsError.invalid
  return s

end PluginLens
