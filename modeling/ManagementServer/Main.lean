import ManagementServer.Daemon.Run
import ManagementServer.Server.Peers
import Std.Time.DateTime.Timestamp

/-!
# The command line

A server whose only peer is whoever writes to its standard input. Answers and notifications go to
standard output, and log records to standard error.
-/

namespace ManagementServer.CommandLine

open Device (AnyModule)
open Server (Peers)
open Settings (Config LoadError)

/-- A server and its peer. -/
abbrev World := Peers AnyModule

/-- The name of the peer. -/
def peer : String := "standard input"

/-- How many bytes are read at a time. -/
def chunkSize : USize := 65536

/-- The text of a file that can be read. -/
def textOf? (path : String) : IO (Option String) := do
  try return some (← IO.FS.readFile path) catch _ => return none

/-- What the system says about itself under a name. -/
def kernelText (name : String) : IO String := do
  return Text.trimEnd ((← textOf? ("/proc/sys/kernel/" ++ name)).getD "unknown")

/-- What the surroundings say now. Of host names only one is known. -/
def surroundings : IO Environment := do
  let now ← Std.Time.Timestamp.now
  return {
    now := now.toNanosecondsSinceUnixEpoch.val
    osName := ← kernelText "ostype"
    machine := ← kernelText "arch"
    resolve := fun host =>
      if host == "localhost" then .ok [.v4 ⟨127, 0, 0, 1⟩] else .error "name not known" }

/-- The variables that settings are loaded from. -/
def variableNames : List String :=
  ["NETCONFD_DAEMON_SOCKET", "NETCONFD_LOG_FILTER", "NETCONFD_LOG_FORMAT",
    "NETCONFD_POLL_INTERVAL_MS", "NETCONFD_MODULES_FILE"]

/-- Loads the settings. -/
def loadSettings (arguments : List String) : IO (Except LoadError Config) := do
  let found ← variableNames.filterMapM fun name => do
    return (← IO.getEnv name).map (name, ·)
  let defaults : Settings.Surroundings :=
    ⟨← IO.getEnv "XDG_RUNTIME_DIR", (← IO.getEnv "UID").getD "0"⟩
  return Settings.load defaults arguments found

/-- The files of a host that holds nothing but the manifest. -/
def manifestOnly (loaded : Except LoadError Config) : IO Files.Tree := do
  let nothing := Files.Tree.ofHome []
  match loaded.toOption >>= (·.modulesFile) with
  | none => return nothing
  | some path => return (← textOf? path).elim nothing (nothing.write path)

/-- Does something and writes the log of it. -/
def act {α : Type} (loaded : Except LoadError Config) (x : Action World α) (w : World) :
    IO (α × World) := do
  let r := x w
  let log ← IO.getStderr
  for record in Daemon.written loaded r.journal do
    log.putStrLn record.encode.render
  return (r.value, r.state)

/-- Hands on what the peer sends, and writes what it receives, until one of them ends. -/
partial def serve (loaded : Except LoadError Config) (w : World) : IO World := do
  let chunk ← (← IO.getStdin).read chunkSize
  let isEnd := chunk.isEmpty
  let (_, w) ← act loaded (Peers.send (← surroundings) peer chunk.toList isEnd) w
  let output ← IO.getStdout
  for p in w.all do
    for message in w.news p do
      output.putStr (String.ofList message.line)
  output.flush
  if isEnd || !w.gone.isEmpty then return w else serve loaded w.look

/-- Runs a server. Returns the status with which it ends. -/
def run (arguments : List String) : IO Nat := do
  let loaded ← loadSettings arguments
  let env ← surroundings
  let start : World := .ofHost (.ofFiles (← manifestOnly loaded))
  match ← act loaded (Peers.onSystem (Daemon.start env .builtin loaded)) start with
  | (.crashed, _) => return 101
  | (.returned (.error error), _) =>
    IO.eprintln (Daemon.complaint error)
    return Daemon.exitStatus (.error error)
  | (.returned (.ok _), w) =>
    let (_, w) ← act loaded (Peers.connect env peer) w
    let w ← serve loaded w
    match ← act loaded (Peers.onSystem (Daemon.finish (← surroundings) (.ok ()))) w with
    | (.crashed, _) => return 101
    | (.returned ended, _) => return Daemon.exitStatus ended

end ManagementServer.CommandLine

/-- Runs a server with the given arguments. -/
def main (arguments : List String) : IO UInt32 := do
  return (← ManagementServer.CommandLine.run arguments).toUInt32
