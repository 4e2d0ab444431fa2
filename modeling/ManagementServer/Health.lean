import ManagementServer.Device.Error
import ManagementServer.Log.Record
import ManagementServer.Session.Basic
import ManagementServer.Startup.Error

/-!
# Health events

What a server reports about its own life: its start, its modules and its sessions.
-/

namespace ManagementServer

/-- A report. -/
inductive HealthEvent where
  | bootstrapStarting
  | bootstrapSucceeded (config : Settings.Config)
  | bootstrapFailed (error : Startup.Error)
  | moduleLoaded (name : String) (handle : Device.Handle) (allowed : Bool)
  | moduleFailed (name : String) (error : Device.ModuleError)
  | moduleRemoved (name : String)
  | sessionOpened (id username : String)
  | sessionClosed (id : String) (reason : ExitReason)
  deriving Repr

namespace HealthEvent

/-- The name of a report. -/
def name : HealthEvent → String
  | .bootstrapStarting => "bootstrap_starting"
  | .bootstrapSucceeded _ => "bootstrap_succeeded"
  | .bootstrapFailed _ => "bootstrap_failed"
  | .moduleLoaded .. => "module_loaded"
  | .moduleFailed .. => "module_failed"
  | .moduleRemoved _ => "module_removed"
  | .sessionOpened .. => "session_opened"
  | .sessionClosed .. => "session_closed"

/-- The text of a report in the log. -/
def message : HealthEvent → String
  | .bootstrapStarting => "starting server bootstrap"
  | .bootstrapSucceeded _ => "server bootstrap completed"
  | .bootstrapFailed _ => "server bootstrap failed"
  | .moduleLoaded .. => "device module loaded"
  | .moduleFailed .. => "device module failed to load"
  | .moduleRemoved _ => "device module removed"
  | .sessionOpened .. => "session opened"
  | .sessionClosed .. => "session closed"

/-- Whether something went wrong. -/
def isFailure : HealthEvent → Bool
  | .bootstrapFailed _ | .moduleFailed .. => true
  | _ => false

/-- The fields of a report in the log. -/
def fields : HealthEvent → List (String × Json)
  | .bootstrapStarting => []
  | .bootstrapSucceeded c =>
    [("socket", .string c.endpoint.text), ("log_filter", .string c.logFilter),
      ("log_format", .string c.logFormat.label), ("poll_interval_ms", .ofNat c.pollIntervalMs)]
  | .bootstrapFailed error => [("error", .string error.message)]
  | .moduleLoaded name handle allowed =>
    [("module", .string name), ("handle", .string handle.text), ("allowed", .bool allowed)]
  | .moduleFailed name error => [("module", .string name), ("error", .string error.message)]
  | .moduleRemoved name => [("module", .string name)]
  | .sessionOpened id username => [("session", .string id), ("username", .string username)]
  | .sessionClosed id reason => [("session", .string id), ("reason", .string reason.name)]

/-- The report as a log record. -/
def record (e : HealthEvent) : Log.Record where
  level := if e.isFailure then .error else .info
  target := .health
  message := e.message
  fields := ("event", .string e.name) :: e.fields

end HealthEvent

end ManagementServer
