import PluginLens.Cli.Arguments
import PluginLens.Cli.LogFilter
import PluginLens.Inspection.Setup
import PluginLens.Settings.File
import PluginLens.Service.Session

/-!
# Running the command

A run reads its arguments, then works in this order: load the settings (from `--config`, or
the defaults), choose the log filter, set up the inspector, gather the input files (the
`--input` paths, then each `--folder`'s plugin files), refuse to go on without any, inspect
them, pick the output format (so an unknown format fails only after the inspections), and
write the reports to the output file or to the standard output. It ends by noting how many
reports are incomplete.

A refused command line exits with status 2 and the refusal; help and version exit with 0.
A failure exits with status 1 and `Error: ` followed by its message and, below
`Caused by:`, the messages of its causes, indented (and numbered when there are several).

Log lines name their level and the target `plugin_scout`; the filter decides which are
written.
-/

namespace PluginLens.Cli

open PluginLens.Service

/-- What a run can see: its working directory, the log setting of its environment, the
network it may listen on, and what a client sends when it serves. -/
structure Environment where
  ws : Workspace
  logSetting : Option String := none
  network : Network := .offline
  client : List String := []
  deriving Inhabited

/-- What a run leaves: its status, what it wrote to each stream (log lines apart), the log
lines it wrote, the working directory after it with the files it wrote (also listed by path),
and, when it served, the replies it sent for each of the client's messages. -/
structure Outcome where
  status : Nat
  stdout : String := ""
  stderr : String := ""
  logs : List String := []
  ws : Workspace
  written : List (String × String) := []
  replies : List (Option (List Reply)) := []
  deriving Inhabited

/-- An event the command logs: its severity, the names of its fields, and its text. -/
structure LogEvent where
  severity : Severity
  fields : List String := ["message"]
  text : String
  deriving Inhabited

def logTarget : String := "plugin_scout"

def LogEvent.line (e : LogEvent) : String :=
  e.severity.name.toUpper ++ " " ++ logTarget ++ ": " ++ e.text

def LogFilter.lines (f : LogFilter) (events : List LogEvent) : List String :=
  (events.filter fun e => f.enables logTarget e.fields e.severity).map LogEvent.line

def Diagnostic.event (d : Diagnostic) : LogEvent := { severity := d.severity, text := d.message }

/-- A message written below another: each line indented, the first one numbered when a
number is given. -/
def indentCause (number : Option Nat) (message : String) : String :=
  let lines := message.splitOn "\n"
  let first := match number with
    | some n =>
      let t := toString n
      String.ofList (List.replicate (5 - t.length) ' ') ++ t ++ ": "
    | none => "    "
  let rest := match number with
    | some _ => "       "
    | none => "    "
  match lines with
  | [] => first
  | l :: ls => first ++ l ++ String.join (ls.map fun x => "\n" ++ rest ++ x)

/-- The text a failure writes: its message, then its causes. -/
def failureText (chain : List String) : String :=
  match chain with
  | [] => "Error: \n"
  | [m] => "Error: " ++ m ++ "\n"
  | [m, c] => "Error: " ++ m ++ "\n\nCaused by:\n" ++ indentCause none c ++ "\n"
  | m :: causes =>
    "Error: " ++ m ++ "\n\nCaused by:" ++
      String.join (causes.zipIdx.map fun (c, n) => "\n" ++ indentCause (some n) c) ++ "\n"

def failed (ws : Workspace) (logs : List String) (chain : List String) : Outcome :=
  { status := 1, stderr := failureText chain, logs, ws }

/-- The reports written to a file or the standard output, after the inspections. -/
def deliver (env : Environment) (inv : Invocation) (filter : LogFilter) (events : List LogEvent)
    (reports : List Report) : Outcome :=
  let ws := env.ws
  match OutputFormat.ofName inv.formatName with
  | .error m => failed ws (filter.lines events) [m]
  | .ok format =>
    let text := format.render reports
    let incomplete := (reports.filter fun r => !r.isComplete).length
    let closing : List LogEvent :=
      if incomplete > 0 then
        [{ severity := .info, fields := ["message", "incomplete"]
           text := "Some plugins could not be fully introspected incomplete=" ++ toString incomplete }]
      else []
    match inv.output with
    | none =>
      { status := 0, stdout := text, logs := filter.lines (events ++ closing), ws }
    | some path =>
      match ws.write path text.toUTF8 with
      | .error e => failed ws (filter.lines events) ["Failed to create " ++ path, e.message]
      | .ok ws =>
        let written : LogEvent :=
          { severity := .info, text := "Output written to " ++ path ++ " (format: " ++ inv.formatName ++ ")" }
        { status := 0, logs := filter.lines (events ++ [written] ++ closing), ws, written := [(path, text)] }

/-- Serves the client on the given port; the run ends with the client's messages. -/
def serveClient (env : Environment) (ins : Inspector) (port : Nat) : Outcome :=
  match env.network.bind with
  | .error e => failed env.ws [] ["Failed to bind to 127.0.0.1:" ++ toString port, e.message]
  | .ok () => { status := 0, ws := env.ws, replies := exchange ins env.client }

/-- Runs what the command line asked for. -/
def runInvocation (env : Environment) (inv : Invocation) : Outcome :=
  let ws := env.ws
  match Settings.loadOrDefault ws inv.config with
  | .error e => failed ws [] e.chain
  | .ok settings =>
    let filter := LogFilter.choose env.logSetting settings.logLevel
    match settings.inspector ws with
    | .error p => failed ws [] [p.message]
    | .ok ins =>
      match inv.serve with
      | some port => serveClient env ins port
      | none =>
        let paths := ws.inputFiles settings.scan inv.inputs inv.folders
        if paths.isEmpty then
          failed ws [] ["Please provide at least one --input <file> or --folder <dir>"]
        else
          let start : LogEvent :=
            { severity := .info, fields := ["message", "files", "workers"]
              text := "Introspecting plugins files=" ++ toString paths.length }
          let progress := ins.inspectMany paths
          let events := start :: progress.flatMap fun p => p.diagnostics.map Diagnostic.event
          deliver env inv filter events (progress.map (·.report))

/-- Runs the command with these arguments. -/
def runCommand (env : Environment) (args : List String) : Outcome :=
  match parseArguments args with
  | .error e => { status := 2, stderr := e.render, ws := env.ws }
  | .ok .help => { status := 0, stdout := helpText, ws := env.ws }
  | .ok .version => { status := 0, stdout := versionText, ws := env.ws }
  | .ok (.run inv) => runInvocation env inv

end PluginLens.Cli
