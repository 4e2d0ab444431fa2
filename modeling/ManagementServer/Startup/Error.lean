import ManagementServer.Manifest.Reading
import ManagementServer.Settings.Directory
import ManagementServer.Settings.Loading

/-!
# Why a server does not start
-/

namespace ManagementServer.Startup

/-- What stops a server from starting, in the order in which it is found out. -/
inductive Error where
  | configuration (cause : Settings.LoadError)
  | logFilter (detail : String)
  | socket (cause : Settings.DirectoryError)
  | modules (cause : Manifest.Error)
  deriving DecidableEq, Repr

/-- The wording of an error. -/
def Error.message : Error → String
  | .configuration cause => "failed to load configuration: " ++ cause.message
  | .logFilter detail => "failed to initialise telemetry: invalid log filter: " ++ detail
  | .socket cause => "failed to prepare server socket: " ++ cause.message
  | .modules cause => "failed to load module manifest: " ++ cause.message

end ManagementServer.Startup
