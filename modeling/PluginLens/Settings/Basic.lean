import PluginLens.Plugin.MemberPath
import PluginLens.Json.Value
import PluginLens.Text.Blank

/-!
# Settings

What can be configured: the export slot (a dotted member path such as `module.exports`), the
log level, the number of batch workers, which files a directory scan takes (by extension)
and which directories it never enters, and where documentation comes from (the built-in
extractor, an external command, or nowhere). Every setting has a default, so an empty
configuration is a valid one.

Settings are valid when the export slot parses as a member path, at least one extension is
scanned for, and an external documentation command names a program.
-/

namespace PluginLens

open PluginLens.Text

/-- Where documentation comes from. -/
inductive DocsMode where
  | builtin
  | command
  | none
  deriving DecidableEq, Inhabited, Repr

/-- The name of a documentation mode. -/
def DocsMode.name : DocsMode → String
  | .builtin => "builtin"
  | .command => "command"
  | .none => "none"

/-- The mode of a name. -/
def DocsMode.ofName? : String → Option DocsMode
  | "builtin" => some .builtin
  | "command" => some .command
  | "none" => some .none
  | _ => Option.none

/-- Which files a directory scan takes. -/
structure ScanSettings where
  /-- File extensions, with or without leading dots. -/
  extensions : List String
  /-- Directory names never entered, besides `node_modules` and `.git`. -/
  skipDirs : List String
  deriving DecidableEq, Inhabited, Repr

/-- Where documentation comes from, and the command when it is an external one. -/
structure DocsSettings where
  extractor : DocsMode
  program : String
  args : List String
  deriving DecidableEq, Inhabited, Repr

/-- All settings. -/
structure Settings where
  exportSlot : String
  logLevel : String
  /-- Batch workers; half the processor cores when unset. -/
  threads : Option Nat
  scan : ScanSettings
  docs : DocsSettings
  deriving DecidableEq, Inhabited, Repr

def ScanSettings.default : ScanSettings := ⟨["js", "mjs", "cjs"], []⟩

/-- The default documentation source: the built-in extractor; the command, if chosen,
defaults to `jsdoc2md --json`. -/
def DocsSettings.default : DocsSettings := ⟨.builtin, "jsdoc2md", ["--json"]⟩

def Settings.default : Settings :=
  { exportSlot := "module.exports", logLevel := "info", threads := Option.none,
    scan := ScanSettings.default, docs := DocsSettings.default }

/-- Why settings are not valid. -/
inductive SettingsProblem where
  | badExportSlot (slot : String)
  | noExtensions
  | noProgram
  deriving DecidableEq, Inhabited, Repr

/-- The complaint about invalid settings. -/
def SettingsProblem.message : SettingsProblem → String
  | .badExportSlot slot => "Invalid export_slot `" ++ slot ++ "`"
  | .noExtensions => "scan.extensions must not be empty"
  | .noProgram => "docs.program is required when docs.extractor = \"command\""

namespace Settings

/-- The export slot as a member path. -/
def exportSlotPath (s : Settings) : Except SettingsProblem MemberPath :=
  match MemberPath.parse? s.exportSlot with
  | some p => .ok p
  | Option.none => .error (.badExportSlot s.exportSlot)

/-- Checks the settings, in the order: export slot, extensions, documentation program. -/
def validate (s : Settings) : Except SettingsProblem Unit := do
  let _ ← s.exportSlotPath
  if s.scan.extensions.isEmpty then throw .noExtensions
  if s.docs.extractor == .command && (trimWhite s.docs.program).isEmpty then throw .noProgram

/-- The settings as data, in declaration order. -/
def toJson (s : Settings) : Json :=
  .obj [("export_slot", .str s.exportSlot), ("log_level", .str s.logLevel),
    ("threads", Json.opt Json.nat s.threads),
    ("scan", .obj [("extensions", Json.strs s.scan.extensions),
      ("skip_dirs", Json.strs s.scan.skipDirs)]),
    ("docs", .obj [("extractor", .str s.docs.extractor.name), ("program", .str s.docs.program),
      ("args", Json.strs s.docs.args)])]

end Settings

/-- The number of batch workers: the configured number when positive, else half the cores,
at least one. -/
def workerCount (configured : Option Nat) (cores : Nat) : Nat :=
  match configured with
  | some n => if n > 0 then n else max 1 (cores / 2)
  | Option.none => max 1 (cores / 2)

end PluginLens
