import ManagementServer.Catalog
import ManagementServer.Log.Filter
import ManagementServer.Server.Running

/-!
# Starting a server

What comes before a server can take connections: its settings, its log, the directory of its socket,
its manifest and its modules (`bootstrap`), and then the socket itself (`listen`). The first of
these that fails ends the start, but a module that cannot be loaded does not. While the server runs,
its manifest can be read again (`reload`).
-/

namespace ManagementServer.Startup

open Device (DeviceModule Implementations Outcome)
open Server (Running)

/-- Reads the manifest that the settings name, or takes the default one. -/
def loadManifest (config : Settings.Config) (files : Files.Tree) : Except Manifest.Error Manifest :=
  match config.modulesFile with
  | none => .ok Catalog.defaultManifest
  | some path =>
    match files.read? path with
    | none => .error (.read path)
    | some text => Manifest.parse text

variable {μ α : Type} [DeviceModule μ]

omit [DeviceModule μ] in
/-- Reports why a server does not start. -/
def fail (error : Error) : Action (Running μ) (Outcome (Except Error α)) := do
  Action.emit (.reported (.bootstrapFailed error))
  return .returned (.error error)

/-- Starts a server as far as its modules. Returns its settings. A module that crashes in its
initialisation takes the whole server with it. -/
def bootstrap (env : Environment) (f : Implementations μ)
    (loaded : Except Settings.LoadError Settings.Config) :
    Action (Running μ) (Outcome (Except Error Settings.Config)) := do
  Action.emit (.reported .bootstrapStarting)
  match loaded with
  | .error cause => fail (.configuration cause)
  | .ok config =>
    match Log.Filter.parse? config.logFilter with
    | none => fail (.logFilter "<detail>")
    | some _ =>
      let (files, prepared) := config.endpoint.prepare (← Action.get).host.files
      Running.changeFiles fun _ => files
      match prepared with
      | .error cause => fail (.socket cause)
      | .ok () =>
        match loadManifest config files with
        | .error cause => fail (.modules cause)
        | .ok manifest =>
          match ← Running.onModules (Catalog.sync env f manifest) with
          | .crashed => return .crashed
          | .returned _ =>
            Action.emit (.reported (.bootstrapSucceeded config))
            return .returned (.ok config)

omit [DeviceModule μ] in
/-- Lets a server take connections. Returns where it can be reached. -/
def listen (env : Environment) (config : Settings.Config) :
    Action (Running μ) (Except Connection.ListenerError Settings.Endpoint) := do
  match (← Action.get).host.bind env config.endpoint with
  | .error error => return .error error
  | .ok (listener, host) =>
    match env.threadFault with
    | some detail =>
      Action.modify ({ · with host := host.abandon listener })
      return .error (.spawn detail)
    | none =>
      Action.modify ({ · with host, listener := some listener, accepting := .checking })
      Action.log .info .server "accepting agent connections"
        [("endpoint", .string listener.endpoint.text)]
      return .ok listener.endpoint

/-- Reads the manifest of a running server again. If it cannot be read, nothing changes. -/
def reload (env : Environment) (f : Implementations μ) (config : Settings.Config) :
    Action (Running μ) (Outcome (Except Manifest.Error Catalog.Summary)) := do
  match loadManifest config (← Action.get).host.files with
  | .error error => return .returned (.error error)
  | .ok manifest =>
    match ← Running.onModules (Catalog.sync env f manifest) with
    | .crashed => return .crashed
    | .returned summary => return .returned (.ok summary)

end ManagementServer.Startup
