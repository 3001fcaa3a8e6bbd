import PluginLens.Service.Request
import PluginLens.Inspection.Inspector
import PluginLens.Report.Render
import PluginLens.Workspace.Basic

/-!
# The inspection service

The service answers requests that arrive one per line on a connection. Lines that are blank
once trimmed get no answer; every other line gets exactly one reply, in order:

* `PING` answers `PONG`;
* `INTROSPECT` answers the report of the file named by the string `path` of its parameters;
* `SHUTDOWN` answers `Shutting down...` and ends the session: no later line is read.

A line that is not a request, names another command, or is an `INTROSPECT` without a string
`path` gets an error reply and the session goes on. Commands are matched exactly.

Handling a connection is told as the effects it has, in order: each line read, each reply
written, and the shutdown flag, shared with the server, raised after the last reply.

A server listens on the loopback interface; on a host with no network at all binding fails,
and no session starts.
-/

namespace PluginLens.Service

open PluginLens.Text

/-- A reply to one request line. -/
inductive Reply where
  | success (data : Json)
  | failure (message : String)
  deriving Inhabited

def Reply.toJson : Reply → Json
  | .success data => .obj [("status", .str "success"), ("data", data)]
  | .failure message => .obj [("status", .str "error"), ("message", .str message)]

def shutdownData : Json := .str "Shutting down..."

/-- Runs a decoded request: its reply, and whether the session ends with it. -/
def Request.run (ins : Inspector) (r : Request) : Reply × Bool :=
  match r.command with
  | "PING" => (.success (.str "PONG"), false)
  | "INTROSPECT" =>
    match r.params with
    | none => (.failure "Missing params for INTROSPECT", false)
    | some params =>
      match params.get? "path" with
      | some (.str path) => (.success (ins.inspect path).report.toJson, false)
      | _ => (.failure "Missing 'path' param", false)
  | "SHUTDOWN" => (.success shutdownData, true)
  | other => (.failure ("Unknown command: " ++ other), false)

/-- Answers one request line (already trimmed and not blank). -/
def answerLine (ins : Inspector) (line : String) : Reply × Bool :=
  match Request.decode line with
  | .ok r => r.run ins
  | .error e => (.failure ("Invalid JSON format: " ++ e.message), false)

/-- What handling a connection does, in order. -/
inductive Effect where
  | read (line : String)
  | write (reply : Reply)
  | raiseShutdown
  deriving Inhabited

def Effect.written? : Effect → Option Reply
  | .write reply => some reply
  | _ => none

def Effect.raisesShutdown : Effect → Bool
  | .raiseShutdown => true
  | _ => false

/-- Handles one connection over the lines it receives, until they run out. Each line is read;
one that is blank once trimmed gets no answer. After the reply that ends the session the shared
flag is raised and no further line is read. -/
def handleConnection (ins : Inspector) : List String → List Effect
  | [] => []
  | line :: rest =>
    let t := trimWhite line
    .read line ::
      if t.isEmpty then handleConnection ins rest
      else
        match answerLine ins t with
        | (reply, true) => [.write reply, .raiseShutdown]
        | (reply, false) => .write reply :: handleConnection ins rest

def session (ins : Inspector) (lines : List String) : List Reply × Bool :=
  let effects := handleConnection ins lines
  (effects.filterMap Effect.written?, effects.any Effect.raisesShutdown)

def messageLines (message : String) : List String :=
  message.splitOn "\n"

/-- A client's exchange: each message is sent with a line feed after it, and the replies
to its lines that get one are collected. After the shutdown reply, no further message is
sent (its entry is `none`). -/
def exchange (ins : Inspector) : List String → List (Option (List Reply))
  | [] => []
  | message :: rest =>
    let (replies, stopped) := session ins (messageLines message)
    if stopped then some replies :: rest.map fun _ => none
    else some replies :: exchange ins rest

/-- Where a server can listen: a host either has a loopback interface, or no network at
all. -/
inductive Network where
  | loopback
  | offline
  deriving DecidableEq, Inhabited, Repr

def Network.bind : Network → Except IoError Unit
  | .loopback => .ok ()
  | .offline => .error .networkUnreachable

/-- Serves one client's messages: the replies to each message, once a socket is bound. -/
def serve (net : Network) (ins : Inspector) (messages : List String) :
    Except IoError (List (Option (List Reply))) := do
  net.bind
  pure (exchange ins messages)

end PluginLens.Service
