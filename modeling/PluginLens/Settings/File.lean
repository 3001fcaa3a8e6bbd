import PluginLens.Settings.Decode
import PluginLens.Workspace.Basic

/-!
# Settings from a file

Settings are loaded from a configuration file when one is named, and are the defaults
otherwise. A file that cannot be read, or whose text gives no settings, fails with the
path in the outermost message.
-/

namespace PluginLens

/-- Why a configuration file gives no settings. -/
inductive LoadError where
  | unreadable (path : String) (reason : IoError)
  | rejected (path : String) (reason : SettingsError)
  deriving Inhabited

def LoadError.chain : LoadError → List String
  | .unreadable path reason => ["Failed to read config " ++ path, reason.message]
  | .rejected path reason => ("Failed to load config " ++ path) :: reason.chain

/-- The settings in the file `path` of a workspace. -/
def Settings.load (ws : Workspace) (path : String) : Except LoadError Settings :=
  match ws.readText path with
  | .error e => .error (.unreadable path e)
  | .ok text => (Settings.ofToml text).mapError (.rejected path)

def Settings.loadOrDefault (ws : Workspace) : Option String → Except LoadError Settings
  | some path => Settings.load ws path
  | none => .ok Settings.default

end PluginLens
