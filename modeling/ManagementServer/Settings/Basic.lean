import ManagementServer.Files.Path
import ManagementServer.Settings.Endpoint

/-!
# Settings

What a server is told before it starts, and what it assumes where it is told nothing.
-/

namespace ManagementServer.Settings

/-- How log records are written. -/
inductive LogFormat where
  | json
  | compact
  deriving DecidableEq, Repr, Inhabited

namespace LogFormat

/-- Every format. -/
def all : List LogFormat := [.json, .compact]

/-- The name of a format. -/
def name : LogFormat → String
  | .json => "json"
  | .compact => "compact"

/-- How a format is shown in log records. -/
def label : LogFormat → String
  | .json => "Json"
  | .compact => "Compact"

/-- The format of a name, letters of either case. -/
def parse? (text : String) : Option LogFormat :=
  all.find? fun f => f.name.toList == Text.lowerAscii text.toList

/-- The format of a name, letters of lower case. -/
def ofName? (text : String) : Option LogFormat :=
  all.find? (·.name == text)

/-- Reads the written form. -/
def decode : Decoder LogFormat :=
  Decoder.oneOf (all.map fun k => (k.name, k))

end LogFormat

/-- The TCP port of servers that listen on no Unix socket. -/
def defaultTcpPort : Nat := 8300

/-- The log filter where none is given. -/
def defaultLogFilter : String := "info"

/-- The log format where none is given. -/
def defaultLogFormat : LogFormat := .json

/-- The poll interval where none is given, in milliseconds. -/
def defaultPollIntervalMs : Nat := 500

/-- The exit status after a second request to stop. -/
def forcedExitStatus : Nat := 1

/-- What the defaults hang on: the directory for files of the user's programs, if there is one, and
the name of the user. -/
structure Surroundings where
  runtimeDirectory : Option String
  user : String
  deriving Repr, Inhabited

/-- The directory for files of no particular user. -/
def temporaryDirectory : String := "/tmp"

/-- The socket where none is given. The directory of the user's programs counts only if it is an
absolute path. -/
def defaultEndpoint (s : Surroundings) : Endpoint :=
  match s.runtimeDirectory.filter Files.Path.isAbsolute with
  | some directory => .unix (Files.Path.join directory "netconfd/netconfd.sock")
  | none =>
    .unix (Files.Path.join temporaryDirectory s!"netconfd/uid-{s.user}/netconfd.sock")

/-- What a server is told. -/
structure Config where
  endpoint : Endpoint
  logFilter : String
  logFormat : LogFormat
  pollIntervalMs : Nat
  modulesFile : Option String
  deriving Repr, Inhabited

namespace Config

/-- The settings of a server that is told nothing. -/
def standard (s : Surroundings) : Config :=
  ⟨defaultEndpoint s, defaultLogFilter, defaultLogFormat, defaultPollIntervalMs, none⟩

/-- The poll interval in nanoseconds, a millisecond at least. -/
def pollIntervalNanos (c : Config) : Nat :=
  max c.pollIntervalMs 1 * 1000000

/-- The written form. -/
def encode (c : Config) : Json :=
  .ofMembers
    [("socket", .string c.endpoint.text), ("log_filter", .string c.logFilter),
      ("log_format", .string c.logFormat.name), ("poll_interval_ms", .ofNat c.pollIntervalMs),
      ("modules_file", .optional c.modulesFile)]

end Config

end ManagementServer.Settings
