import ManagementServer.Daemon.Signal
import ManagementServer.Startup.Bootstrap

/-!
# The life of a server

A server starts, runs until it is asked to end, and stops (`run`). What happens while it runs is a
list of `Wake`s: signals that arrive, and moves of its threads and of its peers.
-/

namespace ManagementServer.Daemon

open Device (DeviceModule Implementations Outcome)
open Server (Running)

/-- Why a server could not be started or did not end in order. -/
inductive LaunchError where
  | config (cause : Settings.LoadError)
  | socket (cause : Settings.DirectoryError)
  | shutdown (detail : String)
  | bootstrap (cause : Startup.Error)
  | listener (cause : Connection.ListenerError)
  deriving DecidableEq, Repr

namespace LaunchError

/-- The wording of an error. -/
def message : LaunchError → String
  | .config cause => "failed to load configuration: " ++ cause.message
  | .socket cause => "failed to prepare server socket: " ++ cause.message
  | .shutdown detail =>
    "failed to await shutdown signal: failed to install signal handlers: " ++ detail
  | .bootstrap cause => "server bootstrap failed: " ++ cause.message
  | .listener cause => "server socket listener failed: " ++ cause.message

/-- The error for a server that does not start. -/
def ofStartup : Startup.Error → LaunchError
  | .configuration cause => .config cause
  | .socket cause => .socket cause
  | other => .bootstrap other

end LaunchError

/-- The status with which a server ends. -/
def exitStatus : Except LaunchError Unit → Nat
  | .ok () => 0
  | .error _ => 1

/-- What a server says when it ends by an error. -/
def complaint (e : LaunchError) : String :=
  "netconfd: " ++ e.message

/-- What is written of what happens: all that the filter admits. Before the filter is known nothing
is written, and so nothing of the beginning. -/
def written (loaded : Except Settings.LoadError Settings.Config) (journal : List Occurrence) :
    List Log.Record :=
  match loaded.toOption >>= fun config => Log.Filter.parse? config.logFilter with
  | none => []
  | some filter =>
    (journal.filter fun o =>
      match o with
      | .reported .bootstrapStarting => false
      | _ => true).filterMap (·.record?) |>.filter filter.admits

variable {μ : Type} [DeviceModule μ]

/-- Starts a server and lets it take connections. Modules that are loaded stay so even if it cannot
listen. -/
def start (env : Environment) (f : Implementations μ)
    (loaded : Except Settings.LoadError Settings.Config) :
    Action (Running μ) (Outcome (Except LaunchError Settings.Config)) := do
  match ← Startup.bootstrap env f loaded with
  | .crashed => return .crashed
  | .returned (.error error) => return .returned (.error (.ofStartup error))
  | .returned (.ok config) =>
    match ← Startup.listen env config with
    | .error error => return .returned (.error (.listener error))
    | .ok endpoint =>
      Action.log .info .process "server ready" [("endpoint", .string endpoint.text)]
      return .returned (.ok config)

/-- Names as log records show them. -/
def nameList (names : List String) : Json := .string (Text.Quoted.quoteAll names)

/-- Reads the manifest again and says in the log what came of it. Returns whether the server lives
on. -/
def reload (env : Environment) (f : Implementations μ) (config : Settings.Config) :
    Action (Running μ) (Outcome Unit) := do
  match ← Startup.reload env f config with
  | .crashed => return .crashed
  | .returned (.ok summary) =>
    Action.log .info .process "module manifest reloaded"
      [("added", nameList summary.added), ("removed", nameList summary.removed),
        ("updated", nameList summary.updated), ("failed", nameList summary.failed)]
    return .returned ()
  | .returned (.error error) =>
    Action.log .warn .process "module manifest reload failed; keeping current modules"
      [("error", .string error.message)]
    return .returned ()

/-- What a signal does to a running server. Returns whether the server is to be stopped. -/
def receive (env : Environment) (f : Implementations μ) (config : Settings.Config) (number : Int) :
    Action (Running μ) (Outcome Bool) := do
  match (onSignal false number).1 with
  | .shutdown =>
    Action.log .info .process "shutdown signal received" [("signal", .number (.integer number))]
    return .returned true
  | .reload =>
    Action.log .info .process "reload signal received" [("signal", .number (.integer number))]
    match ← reload env f config with
    | .crashed => return .crashed
    | .returned () => return .returned false
  | .forceExit | .ignore => return .returned false

/-- Stops a server. `waited` says whether signals could be awaited. -/
def finish (env : Environment) (waited : Except String Unit) :
    Action (Running μ) (Outcome (Except LaunchError Unit)) := do
  match ← Running.shutdown env with
  | .crashed => return .crashed
  | .returned stopped =>
    match waited, stopped with
    | .error detail, _ => return .returned (.error (.shutdown detail))
    | .ok (), .error error => return .returned (.error (.listener error))
    | .ok (), .ok () =>
      Action.log .info .process "shutdown sequence completed" []
      return .returned (.ok ())

/-- Something that happens while a server runs. -/
inductive Wake where
  | signal (number : Int)
  | move (move : Server.Move)
  | files (tree : Files.Tree)
  deriving Repr, Inhabited

/-- Lets a server run until a signal asks it to end, or until nothing happens any more. -/
def await (f : Implementations μ) (config : Settings.Config) :
    List (Environment × Wake) → Action (Running μ) (Outcome Unit)
  | [] => pure (.returned ())
  | (env, .signal number) :: rest => do
    match ← receive env f config number with
    | .crashed => return .crashed
    | .returned true => return .returned ()
    | .returned false => await f config rest
  | (env, .move move) :: rest => do
    Running.step env move
    await f config rest
  | (_, .files tree) :: rest => do
    Running.changeFiles fun _ => tree
    await f config rest

/-- Runs a server from its start to its end. `signals` says why signals cannot be awaited, or what
happens while they are. -/
def run (env : Environment) (f : Implementations μ)
    (loaded : Except Settings.LoadError Settings.Config)
    (signals : Except String (List (Environment × Wake))) :
    Action (Running μ) (Outcome (Except LaunchError Unit)) := do
  match ← start env f loaded with
  | .crashed => return .crashed
  | .returned (.error error) => return .returned (.error error)
  | .returned (.ok config) =>
    match signals with
    | .error detail => finish env (.error detail)
    | .ok wakes =>
      match ← await f config wakes with
      | .crashed => return .crashed
      | .returned () => finish env (.ok ())

end ManagementServer.Daemon
