import PluginLens.Inspection.Inspector
import PluginLens.Docs.External
import PluginLens.Command.Programs
import PluginLens.Workspace.Scan
import PluginLens.Settings.Basic

/-!
# An inspector set up from settings

Settings choose how an inspector finds its export, and which extractor documents the files;
a workspace supplies the sources. Sources are read as UTF-8 text, and a file that cannot be
read is a `read` failure naming its path. The builtin extractor reads the same workspace, the
command extractor runs its program there, and with documentation switched off every report
carries `null` documentation.

The files to inspect are the named paths first, then the plugin files found below each
folder, in the order the folders are given.
-/

namespace PluginLens

open PluginLens.Docs

def Workspace.sourceReader (ws : Workspace) : SourceReader := fun p =>
  (ws.readText p).mapError fun e => .read p e.message

/-- The documentation extractor the settings choose, working in `ws`. -/
def Settings.docExtractor (s : Settings) (ws : Workspace) : DocExtractor :=
  match s.docs.extractor with
  | .builtin => builtinExtractor ws.sourceReader
  | .command => commandExtractor (Command.startProgram ws) s.docs.program s.docs.args
  | .none => disabledExtractor

/-- The inspector the settings describe, reading from `ws`; it fails only when the export
slot is not a member path. -/
def Settings.inspector (s : Settings) (ws : Workspace) : Except SettingsProblem Inspector := do
  let slot ← s.exportSlotPath
  pure { exportSlot := slot, read := ws.sourceReader, docs := s.docExtractor ws }

def Workspace.inputFiles (ws : Workspace) (scan : ScanSettings) (paths folders : List String) :
    List String :=
  paths ++ folders.flatMap fun d => ws.collectPlugins d scan

end PluginLens
